import RecordStore.Plan.Call
import RecordStore.Proofs.Name.Field
import RecordStore.Proofs.Outcome
import RecordStore.Proofs.Plan.Operand

-- Questions: what is asked for by the calls that build a plan, before anything is resolved.
--
-- A plan is determined by its question: there is one filter for each condition,
-- at the same position.

namespace RecordStore

-- A field, a comparator and what it is compared with.
structure Condition where
  predicate : Predicate
  givens : List Given

namespace Condition

-- Singular comparators take exactly one value.
def Accepted (c : Condition) : Prop :=
  c.predicate.comparator.isSingular → c.givens.length = 1

-- The filter that stands for a condition at a given position of a plan.
def filter (c : Condition) (position : Nat) : Filter :=
  let operator := .ofComparator (c.givens.length != 1) c.predicate.comparator
  { field := c.predicate.field
    comparator := c.predicate.comparator
    operator := operator
    operand := .ofGiven operator c.givens
    bind := Filter.bindName c.predicate.field position }

variable (c : Condition) (i : Nat)

@[simp]
theorem filter_field : (c.filter i).field = c.predicate.field :=
  rfl

@[simp]
theorem filter_comparator : (c.filter i).comparator = c.predicate.comparator :=
  rfl

theorem filter_operator :
    (c.filter i).operator = .ofComparator (c.givens.length != 1) c.predicate.comparator :=
  rfl

@[simp]
theorem filter_operand : (c.filter i).operand = .ofGiven (c.filter i).operator c.givens :=
  rfl

@[simp]
theorem filter_bind : (c.filter i).bind = Filter.bindName c.predicate.field i :=
  rfl

variable {c : Condition} {i : Nat}

theorem filter_of_new (h : Filter.new c.predicate c.givens i = .ok f) :
    c.Accepted ∧ f = c.filter i := by
  simp only [Filter.new] at h
  split at h
  case isTrue => cases h
  case isFalse accepted =>
    cases h
    exact ⟨fun singular => by simpa [singular] using accepted, rfl⟩

end Condition

structure Question where
  conditions : List Condition
  connective? : Option Connective

namespace Question

-- Nothing is asked for yet.
def empty : Question where
  conditions := []
  connective? := none

-- A finder starts anew. Sort keys and windows do not change which documents are asked for.
def after (question : Question) : Plan.Call → Question
  | .find name givens => ⟨(Name.finder name).toOption.toList.map (⟨·, givens⟩), none⟩
  | .filter c name givens =>
    ⟨question.conditions ++ (Name.continuation name).toOption.toList.map (⟨·, givens⟩), some c⟩
  | .connect c => ⟨question.conditions, some c⟩
  | .sortBy _ | .slice .. => question

def ofCalls (calls : List Plan.Call) : Question :=
  calls.foldl after empty

def connective (question : Question) : Connective := question.connective?.getD .and

end Question

namespace Plan

variable {plan plan' : Plan} {question : Question} {name : String} {givens : List Given}
  {c : Connective} {call : Call} {cs : List Call}

-- A plan stands for a question if its filters are those of the conditions, one after the other.
structure StandsFor (plan : Plan) (question : Question) : Prop where
  filters : plan.filters = question.conditions.mapIdx fun i c => c.filter i
  connective : plan.connective? = question.connective?
  nonempty : question.conditions ≠ []
  accepted : ∀ c ∈ question.conditions, c.Accepted
  isField : ∀ c ∈ question.conditions, Name.IsField c.predicate.field
  sorts : ∀ key ∈ plan.sorts, Name.IsField key.field
  -- Only a single filter needs no connective.
  connected : 1 < question.conditions.length → plan.connective?.isSome

theorem find_standsFor (question : Question) (h : Plan.find name givens = .ok plan) :
    plan.StandsFor (question.after (.find name givens)) := by
  have ⟨p, read, h⟩ := bind_eq_ok_iff.mp h
  have ⟨f, new, h⟩ := bind_eq_ok_iff.mp h
  cases h
  have ⟨accepted, eq⟩ := Condition.filter_of_new (c := ⟨p, givens⟩) new
  have isField := Name.finder_isField read
  constructor <;> simp [Question.after, read, Except.toOption, eq, accepted, isField]

theorem eq_of_connect (h : plan.connect c = .ok plan') :
    plan' = { plan with connective? := some c } := by
  unfold Plan.connect at h
  split at h
  case h_2 => cases h; rfl
  case h_1 current held =>
    split at h
    case isFalse => cases h
    case isTrue eq => cases h; rw [← eq, ← held]

theorem StandsFor.connect (stands : plan.StandsFor question)
    (h : plan.connect c = .ok plan') : plan'.StandsFor (question.after (.connect c)) := by
  rw [eq_of_connect h]
  exact { stands with connective := rfl, connected := fun _ => rfl }

theorem StandsFor.pushFilter (stands : plan.StandsFor question)
    (connected : plan.connective?.isSome) (h : plan.pushFilter name givens = .ok plan') :
    plan'.StandsFor ⟨question.conditions ++
      (Name.continuation name).toOption.toList.map (⟨·, givens⟩), question.connective?⟩ := by
  have ⟨p, read, h⟩ := bind_eq_ok_iff.mp h
  have ⟨f, new, h⟩ := bind_eq_ok_iff.mp h
  cases h
  have ⟨accepted, eq⟩ := Condition.filter_of_new (c := ⟨p, givens⟩) new
  have isField := Name.continuation_isField read
  simp only [read, Except.toOption, Option.toList_some, List.map_cons, List.map_nil]
  constructor
  case filters => simp [stands.filters, eq]
  case connective => exact stands.connective
  case nonempty => simp
  case accepted => simpa [or_imp, forall_and, accepted] using stands.accepted
  case isField => simpa [or_imp, forall_and, isField] using stands.isField
  case sorts => exact stands.sorts
  case connected => exact fun _ => connected

theorem StandsFor.filter (stands : plan.StandsFor question)
    (h : plan.filter c name givens = .ok plan') :
    plan'.StandsFor (question.after (.filter c name givens)) := by
  have ⟨connected, h₁, h₂⟩ := bind_eq_ok_iff.mp h
  have isSome : connected.connective?.isSome := by rw [eq_of_connect h₁]; rfl
  exact (stands.connect h₁).pushFilter isSome h₂

theorem StandsFor.sortBy (stands : plan.StandsFor question)
    (h : plan.sortBy name = .ok plan') : plan'.StandsFor question := by
  have ⟨key, read, h⟩ := bind_eq_ok_iff.mp h
  cases h
  refine { stands with sorts := ?_ }
  simpa [or_imp, forall_and, Name.sorter_isField read] using stands.sorts

theorem StandsFor.slice (stands : plan.StandsFor question)
    (h : plan.slice start stop = .ok plan') : plan'.StandsFor question := by
  have ⟨window, _, h⟩ := bind_eq_ok_iff.mp h
  cases h
  exact { stands with }

-- What one call preserves.
theorem StandsFor.call? (stands : plan.StandsFor question)
    (h : Plan.call? (some plan) call = some (.ok plan')) :
    plan'.StandsFor (question.after call) := by
  cases call with
  | find name givens => exact find_standsFor question (Option.some.inj h)
  | filter c name givens => exact stands.filter (Option.some.inj h)
  | connect c => exact stands.connect (Option.some.inj h)
  | sortBy name => exact stands.sortBy (Option.some.inj h)
  | slice start stop => exact stands.slice (Option.some.inj h)

theorem standsFor_of_first_call? (question : Question)
    (h : Plan.call? none call = some (.ok plan)) : plan.StandsFor (question.after call) := by
  cases call with
  | find name givens => exact find_standsFor question (Option.some.inj h)
  | _ => cases h

theorem StandsFor.build? (stands : plan.StandsFor question)
    (h : Plan.build? (some plan) cs = some (.ok plan')) :
    plan'.StandsFor (cs.foldl Question.after question) := by
  induction cs generalizing plan question with
  | nil => cases h; exact stands
  | cons call cs ih =>
    simp only [Plan.build?] at h
    split at h
    case h_1 next eq => exact ih (stands.call? eq) h
    case h_2 failed => exact absurd h (failed plan')

-- Every plan that calls build stands for what they ask for.
theorem standsFor_ofCalls (h : build? none cs = some (.ok plan)) :
    plan.StandsFor (.ofCalls cs) := by
  cases cs with
  | nil => cases h
  | cons call cs =>
    simp only [build?] at h
    split at h
    case h_1 next eq => exact (standsFor_of_first_call? .empty eq).build? h
    case h_2 failed => exact absurd h (failed plan)

end Plan
end RecordStore
