import RecordStore.Proofs.Name.Grammar
import RecordStore.Proofs.Plan.Question

namespace RecordStore

namespace Comparator

-- The comparators that take exactly one value.
def singular : List Comparator :=
  [greaterThan, greaterThanOrEqual, lesserThan, lesserThanOrEqual, matching, notMatching]

theorem isSingular_iff {c : Comparator} : c.isSingular ↔ c ∈ singular := by
  cases c <;> decide

end Comparator

-- A condition does not give a singular comparator other than one value.
def Condition.Countable (c : Condition) : Prop :=
  c.predicate.comparator ∈ Comparator.singular → c.givens.length = 1

theorem Condition.accepted_iff {c : Condition} : c.Accepted ↔ c.Countable := by
  rw [Accepted, Countable, Comparator.isSingular_iff]

namespace Filter

theorem new_of_countable {c : Condition} (countable : c.Countable) (position : Nat) :
    Filter.new c.predicate c.givens position = .ok (c.filter position) := by
  have not_refused : ¬(c.predicate.comparator.isSingular && c.givens.length != 1) := by
    intro refused
    have ⟨singular, multiple⟩ := Bool.and_eq_true_iff.mp refused
    simp [countable (Comparator.isSingular_iff.mp singular)] at multiple
  simp only [Filter.new, if_neg not_refused]
  rfl

theorem kind_of_new (h : Filter.new p givens position = .error e) : e.kind = .grammar := by
  simp only [Filter.new] at h
  split at h <;> cases h
  rfl

end Filter

namespace Plan

namespace Call

def isFind : Call → Bool
  | find .. => true
  | filter .. | connect _ | sortBy _ | slice .. => false

-- What a call asks for, if its name is in the grammar and its comparator takes as many values.
inductive Asks : Call → Condition → Prop where
  | find (named : Name.IsFinder name p) (countable : (Condition.mk p givens).Countable) :
    Asks (.find name givens) ⟨p, givens⟩
  | filter (named : Name.IsContinuation name p) (countable : (Condition.mk p givens).Countable) :
    Asks (.filter c name givens) ⟨p, givens⟩

-- A call by itself, without those before it.
def WellFormed (call : Call) : Prop :=
  match call with
  | find .. | filter .. => ∃ condition, call.Asks condition
  | connect _ => True
  | sortBy name => ∃ key, Name.IsSorter name key
  | slice start stop => 0 ≤ start ∧ start < stop

end Call

-- What a call makes of a plan.
inductive Extends (plan : Plan) : Call → Plan → Prop where
  | filter (asks : (Call.filter c name givens).Asks condition) :
    plan.Extends (.filter c name givens) { plan with
      connective? := some c
      filters := plan.filters ++ [condition.filter plan.filters.length] }
  | connect : plan.Extends (.connect c) { plan with connective? := some c }
  | sortBy (named : Name.IsSorter name key) :
    plan.Extends (.sortBy name) { plan with sorts := plan.sorts ++ [key] }
  | slice (bounds : 0 ≤ start ∧ start < stop) :
    plan.Extends (.slice start stop)
      { plan with window := some ⟨start.toNat, (stop - start).toNat⟩ }

variable {plan plan' : Plan} {name : String} {givens : List Given} {c : Connective}
  {start stop : Int}
  {call : Call} {e : Error}

theorem exists_extends (plan : Plan) (wellFormed : call.WellFormed) (extending : ¬call.isFind) :
    ∃ plan', plan.Extends call plan' := by
  cases call with
  | find => exact absurd rfl extending
  | filter =>
    have ⟨_, asks⟩ := wellFormed
    exact ⟨_, .filter asks⟩
  | connect => exact ⟨_, .connect⟩
  | sortBy =>
    have ⟨_, named⟩ := wellFormed
    exact ⟨_, .sortBy named⟩
  | slice => exact ⟨_, .slice wellFormed⟩

theorem find_of_asks (asks : (Call.find name givens).Asks condition) :
    Plan.find name givens = .ok ⟨[condition.filter 0], none, [], none⟩ := by
  cases asks with
  | find named countable =>
    have new := Filter.new_of_countable countable 0
    exact bind_eq_ok_iff.mpr ⟨_, Name.finder_eq_ok_iff.mpr named, bind_eq_ok_iff.mpr ⟨_, new, rfl⟩⟩

theorem pushFilter_of_asks (asks : (Call.filter c name givens).Asks condition) (plan : Plan) :
    plan.pushFilter name givens =
      .ok { plan with filters := plan.filters ++ [condition.filter plan.filters.length] } := by
  cases asks with
  | filter named countable =>
    have new := Filter.new_of_countable countable plan.filters.length
    exact bind_eq_ok_iff.mpr ⟨_, Name.continuation_eq_ok_iff.mpr named,
      bind_eq_ok_iff.mpr ⟨_, new, rfl⟩⟩

theorem countable_of_made {read : Except Error Predicate} {made : Filter → Plan}
    (h : (do let f ← Filter.new (← read) givens position; return made f) = .ok plan) :
    ∃ p, read = .ok p ∧ (Condition.mk p givens).Countable := by
  have ⟨p, found, h⟩ := bind_eq_ok_iff.mp h
  have ⟨_, new, _⟩ := bind_eq_ok_iff.mp h
  have ⟨accepted, _⟩ := Condition.filter_of_new (c := ⟨p, givens⟩) new
  exact ⟨p, found, Condition.accepted_iff.mp accepted⟩

-- After a name has been read, only the number of values can be wrong.
theorem kind_of_made {read : Except Error Predicate} {made : Filter → Plan}
    (h : (do let f ← Filter.new (← read) givens position; return made f) = .error e) :
    read = .error e ∨ e.kind = .grammar := by
  cases bind_eq_error_iff.mp h with
  | inl failed => exact .inl failed
  | inr h =>
    have ⟨_, _, h⟩ := h
    cases bind_eq_error_iff.mp h with
    | inl failed => exact .inr (Filter.kind_of_new failed)
    | inr h =>
      have ⟨_, _, h⟩ := h
      cases h

theorem wellFormed_of_find (h : Plan.find name givens = .ok plan) :
    (Call.find name givens).WellFormed :=
  have ⟨_, read, countable⟩ := countable_of_made h
  ⟨_, .find (Name.finder_eq_ok_iff.mp read) countable⟩

theorem wellFormed_of_pushFilter (h : plan.pushFilter name givens = .ok plan') (c : Connective) :
    (Call.filter c name givens).WellFormed :=
  have ⟨_, read, countable⟩ := countable_of_made h
  ⟨_, .filter (Name.continuation_eq_ok_iff.mp read) countable⟩

theorem kind_of_find (h : Plan.find name givens = .error e) : e.kind = .grammar := by
  cases kind_of_made h with
  | inl failed => rw [Name.finder_eq_error failed]; rfl
  | inr grammar => exact grammar

theorem kind_of_pushFilter (h : plan.pushFilter name givens = .error e) : e.kind = .grammar := by
  cases kind_of_made h with
  | inl failed => rw [Name.continuation_eq_error failed]; split <;> rfl
  | inr grammar => exact grammar

theorem sortBy_of_isSorter (named : Name.IsSorter name key) (plan : Plan) :
    plan.sortBy name = .ok { plan with sorts := plan.sorts ++ [key] } :=
  bind_eq_ok_iff.mpr ⟨key, Name.sorter_eq_ok_iff.mpr named, rfl⟩

theorem wellFormed_of_sortBy (h : plan.sortBy name = .ok plan') : (Call.sortBy name).WellFormed :=
  have ⟨key, read, _⟩ := bind_eq_ok_iff.mp h
  ⟨key, Name.sorter_eq_ok_iff.mp read⟩

theorem kind_of_sortBy (h : plan.sortBy name = .error e) : e.kind = .grammar := by
  cases bind_eq_error_iff.mp h with
  | inl failed => rw [Name.sorter_eq_error failed]; rfl
  | inr h =>
    have ⟨_, _, h⟩ := h
    cases h

theorem slice_of_bounds (bounds : 0 ≤ start ∧ start < stop) (plan : Plan) :
    plan.slice start stop =
      .ok { plan with window := some ⟨start.toNat, (stop - start).toNat⟩ } := by
  have covered : Window.ofSlice start stop = .ok ⟨start.toNat, (stop - start).toNat⟩ := by
    rw [Window.ofSlice, if_neg (by omega), if_neg (by omega)]
  exact bind_eq_ok_iff.mpr ⟨_, covered, rfl⟩

theorem wellFormed_of_slice (h : plan.slice start stop = .ok plan') :
    (Call.slice start stop).WellFormed := by
  have ⟨_, covered, _⟩ := bind_eq_ok_iff.mp h
  rw [Window.ofSlice] at covered
  split at covered
  case isTrue => cases covered
  case isFalse not_negative =>
    split at covered
    case isTrue => cases covered
    case isFalse not_empty => exact ⟨by omega, by omega⟩

theorem kind_of_slice (h : plan.slice start stop = .error e) : e.kind = .invalidBounds := by
  cases bind_eq_error_iff.mp h with
  | inl failed =>
    rw [Window.ofSlice] at failed
    split at failed
    case isTrue => cases failed; rfl
    case isFalse =>
      split at failed <;> cases failed
      rfl
  | inr h =>
    have ⟨_, _, h⟩ := h
    cases h

end Plan
end RecordStore
