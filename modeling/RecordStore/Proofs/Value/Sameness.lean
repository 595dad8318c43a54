import Mathlib.Data.List.Perm.Subperm
import RecordStore.Proofs.NameMap
import RecordStore.Proofs.Value.Order

-- Sameness of values: the equality by which an assignment is told to change nothing is the one by
-- which values are compared everywhere else.
--
-- The former looks the members of an object up in the other one, the latter goes through both in
-- the order of names. They agree because no name occurs twice and all names are in order.

namespace RecordStore.Value

theorem equals_iff {a b : Value} : a.equals b ↔ a.compare b = .eq := by
  rw [equals, beq_iff_eq]

theorem names_subset_of_sameMembers {ms : List String} {as : Values Value ms} {bs : Fields}
    (same : sameMembers as bs) : ms ⊆ bs.names := by
  induction as with
  | nil => exact List.nil_subset _
  | @cons name _ a as ih =>
    simp only [sameMembers, Bool.and_eq_true] at same
    refine List.cons_subset.mpr ⟨?_, ih same.2⟩
    cases held : bs.get? name with
    | none => simp [held] at same
    | some b => exact NameMap.mem_names_iff.mpr (NameMap.contains_of_get? held)

-- Names that are listed in order and without repetition are determined by how many
-- and which they are.
theorem names_eq_of_sameMembers {as bs : Fields} (size : as.size = bs.size)
    (same : sameMembers as.values bs) : as.names = bs.names := by
  have subperm := List.subperm_of_subset as.nodup_names (names_subset_of_sameMembers same)
  have perm : as.names.Perm bs.names := subperm.perm_of_length_le size.ge
  exact perm.eq_of_pairwise
    (fun _ _ _ _ lt gt => absurd gt (String.lt_asymm lt)) as.sorted bs.sorted

theorem names_eq_of_compareMembers {ms ns : List String} {as : Values Value ms}
    {bs : Values Value ns}
    (tie : compareMembers as bs = .eq) : ms = ns := by
  induction as generalizing ns with
  | nil =>
    cases bs with
    | nil => rfl
    | cons => cases tie
  | cons a as ih =>
    cases bs with
    | nil => cases tie
    | cons b bs =>
      simp only [compareMembers, Ordering.then_eq_eq, Std.LawfulEqOrd.compare_eq_iff_eq] at tie
      rw [tie.1, ih tie.2.2]

mutual

theorem same_iff (a b : Value) : a.same b ↔ a.compare b = .eq := by
  cases a <;> cases b
  case number.number m n =>
    rw [same, beq_iff_eq]
    exact (Std.LawfulEqOrd.compare_eq_iff_eq (α := Int)).symm
  case array.array as bs => exact sameItems_iff as bs
  case object.object as bs =>
    have same_iff (names : as.names = bs.names) :
        sameMembers as.values bs ↔ compareMembers as.values bs.values = .eq := by
      obtain ⟨ms, _, as⟩ := as
      obtain ⟨_, sorted, values⟩ := bs
      cases names
      exact sameMembers_iff as values fun e mem => NameMap.get?_eq_some_iff.mpr mem
    change (as.size == bs.size && sameMembers as.values bs) = true ↔ _
    rw [Bool.and_eq_true, beq_iff_eq]
    constructor
    · rintro ⟨size, same⟩
      exact (same_iff (names_eq_of_sameMembers size same)).mp same
    · intro tie
      have names := names_eq_of_compareMembers tie
      exact ⟨congrArg List.length names, (same_iff names).mpr tie⟩
  -- Values of different types are neither the same nor do they tie.
  all_goals simp [same, compare, rank]

theorem sameItems_iff (as bs : List Value) : sameItems as bs ↔ compareItems as bs = .eq := by
  match as, bs with
  | [], [] | [], _ :: _ | _ :: _, [] => simp [sameItems, compareItems]
  | a :: as, b :: bs =>
    rw [sameItems, compareItems, Bool.and_eq_true, Ordering.then_eq_eq, same_iff a b,
      sameItems_iff as bs]

-- Members of the same names, so that each is found where its counterpart is listed.
theorem sameMembers_iff {names : List String} (as bs : Values Value names) {fields : Fields}
    (held : ∀ e ∈ bs.entries, fields.get? e.1 = some e.2) :
    sameMembers as fields ↔ compareMembers as bs = .eq := by
  match names, as, bs with
  | _, .nil, .nil => simp [sameMembers, compareMembers]
  | name :: _, .cons a as, .cons b bs =>
    obtain ⟨first, rest⟩ := List.forall_mem_cons.mp held
    rw [sameMembers, first, compareMembers, Bool.and_eq_true, same_iff a b,
      sameMembers_iff as bs rest]
    simp

end

end RecordStore.Value
