import Mathlib.Data.List.Forall2

-- Steps that can fail succeed only if each of their parts does.

namespace RecordStore

variable {ε : Type u} {α β : Type v}

theorem bind_eq_ok_iff {x : Except ε α} {f : α → Except ε β} {b : β} :
    (x >>= f) = .ok b ↔ ∃ a, x = .ok a ∧ f a = .ok b := by
  cases x with
  | error e => exact ⟨nofun, nofun⟩
  | ok a => exact ⟨fun h => ⟨a, rfl, h⟩, fun ⟨_, rfl, h⟩ => h⟩

theorem bind_eq_error_iff {x : Except ε α} {f : α → Except ε β} {e : ε} :
    (x >>= f) = .error e ↔ x = .error e ∨ ∃ a, x = .ok a ∧ f a = .error e := by
  cases x <;> simp [Bind.bind, Except.bind]

theorem map_eq_ok_iff {x : Except ε α} {f : α → β} {b : β} :
    x.map f = .ok b ↔ ∃ a, x = .ok a ∧ f a = b := by
  cases x <;> simp [Except.map]

-- A step that fails leaves the state as it was.
def Atomic (s : σ) (outcome : Except ε α × σ) : Prop :=
  ∀ e s', outcome = (.error e, s') → s' = s

namespace Atomic

variable {s : σ} {outcome : Except ε α × σ}

theorem of_eq (eq : outcome.2 = s) : Atomic s outcome :=
  fun _ _ failed => (congrArg Prod.snd failed).symm.trans eq

theorem map (atomic : Atomic s outcome) (f : α → β) : Atomic s (outcome.1.map f, outcome.2) := by
  rcases outcome with ⟨e | a, s'⟩
  case error => exact .of_eq (atomic e s' rfl)
  case ok => exact nofun

-- What holds of the state holds after the step too, if it does where the step succeeds.
theorem induction {motive : σ → Prop} (atomic : Atomic s outcome) (unchanged : motive s)
    (done : ∀ a s', outcome = (.ok a, s') → motive s') : motive outcome.2 := by
  rcases outcome with ⟨e | a, s'⟩
  case error => exact atomic e s' rfl ▸ unchanged
  case ok => exact done a s' rfl

end Atomic

theorem eq_ok_of_isOk {x : Except ε Unit} (h : x.isOk) : x = .ok () := by
  cases x with
  | error e => cases h
  | ok => rfl

theorem exists_eq_error_iff {x : Except ε α} : (∃ e, x = .error e) ↔ ¬∃ a, x = .ok a := by
  cases x <;> simp

-- A step that is made for each item succeeds if it does for all of them, and makes
-- one thing of each.
theorem mapM_eq_ok_iff {f : α → Except ε β} {as : List α} {bs : List β} :
    as.mapM f = .ok bs ↔ List.Forall₂ (fun a b => f a = .ok b) as bs := by
  induction as generalizing bs with
  | nil => cases bs <;> simp [pure, Except.pure]
  | cons a as ih =>
    simp only [List.mapM_cons, bind_eq_ok_iff, ih]
    constructor
    · rintro ⟨b, made, bs, rest, eq⟩
      cases eq
      exact .cons made rest
    · intro made
      cases made with
      | cons first rest => exact ⟨_, first, _, rest, rfl⟩

-- The first of some items that lacks a property.
theorem exists_first_of_not_forall {P : α → Prop} {as : List α} (h : ¬∀ a ∈ as, P a) :
    ∃ before bad after, as = before ++ bad :: after ∧ (∀ a ∈ before, P a) ∧ ¬P bad := by
  classical
  have some_fails : (as.find? fun a => ¬P a).isSome := by simpa using h
  obtain ⟨bad, found⟩ := Option.isSome_iff_exists.mp some_fails
  obtain ⟨fails, before, after, split, all⟩ := List.find?_eq_some_iff_append.mp found
  exact ⟨before, bad, after, split, by simpa using all, by simpa using fails⟩

theorem forM_eq_ok_iff {f : α → Except ε PUnit} {as : List α} :
    as.forM f = .ok ⟨⟩ ↔ ∀ a ∈ as, f a = .ok ⟨⟩ := by
  induction as with
  | nil => simp [pure, Except.pure]
  | cons a as ih =>
    rw [List.forall_mem_cons, ← ih]
    refine Iff.trans bind_eq_ok_iff ⟨?_, ?_⟩
    · rintro ⟨_, first, rest⟩
      exact ⟨first, rest⟩
    · rintro ⟨first, rest⟩
      exact ⟨_, first, rest⟩

theorem exists_of_forM_eq_error {f : α → Except ε PUnit} {as : List α} (h : as.forM f = .error e) :
    ∃ a ∈ as, f a = .error e := by
  induction as with
  | nil => cases h
  | cons a as ih =>
    obtain first | ⟨_, _, rest⟩ := bind_eq_error_iff.mp h
    · exact ⟨a, List.mem_cons_self, first⟩
    · obtain ⟨b, mem, failed⟩ := ih rest
      exact ⟨b, List.mem_cons_of_mem a mem, failed⟩

-- What each step on such an item can reach from what has been reached before, all
-- of the steps reach.
theorem exists_foldlM_eq_ok {f : β → α → Except ε β} {Reached : List α → β → Prop} {P : α → Prop}
    (step : ∀ {before a b}, Reached before b → P a →
      ∃ b', f b a = .ok b' ∧ Reached (before ++ [a]) b')
    (reached : Reached before b) (all : ∀ a ∈ after, P a) :
    ∃ b', after.foldlM f b = .ok b' ∧ Reached (before ++ after) b' := by
  induction after generalizing before b with
  | nil => exact ⟨b, rfl, by rwa [List.append_nil]⟩
  | cons a after ih =>
    have ⟨first, rest⟩ := List.forall_mem_cons.mp all
    obtain ⟨next, stepped, reached⟩ := step reached first
    obtain ⟨last, folded, reached⟩ := ih reached rest
    refine ⟨last, ?_, by rwa [List.append_cons]⟩
    rw [List.foldlM_cons, stepped]
    exact folded

theorem mapM_eq_some_map {f : α → Option β} {g : α → β} {as : List α}
    (made : ∀ a ∈ as, f a = some (g a)) :
    as.mapM f = some (as.map g) := by
  induction as with
  | nil => rfl
  | cons a as ih =>
    have ⟨first, rest⟩ := List.forall_mem_cons.mp made
    rw [List.mapM_cons, first, ih rest]
    rfl

theorem mapM_isOk_iff {f : α → Except ε β} {as : List α} :
    (∃ bs, as.mapM f = .ok bs) ↔ ∀ a ∈ as, ∃ b, f a = .ok b := by
  simp only [mapM_eq_ok_iff]
  induction as with
  | nil => simp
  | cons a as ih =>
    rw [List.forall_mem_cons, ← ih]
    constructor
    · rintro ⟨_, made⟩
      cases made with
      | cons first rest => exact ⟨⟨_, first⟩, _, rest⟩
    · rintro ⟨⟨_, first⟩, _, rest⟩
      exact ⟨_, .cons first rest⟩

end RecordStore
