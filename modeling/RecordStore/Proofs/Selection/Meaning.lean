import RecordStore.Proofs.NameMap
import RecordStore.Proofs.Plan.Binding
import RecordStore.Proofs.Value.Order
import RecordStore.Pattern
import RecordStore.Selection

-- What the conditions of a question mean, whichever operators they are resolved to: the selection
-- of a plan holds of exactly the documents that meet its question.

namespace RecordStore

variable {env : Environment}

-- Only arrays have something.
def Value.Has (collection v : Value) : Prop :=
  ∃ items, collection = .array items ∧ ∃ item ∈ items, item.equals v

-- Whether a pattern occurs in a text is up to what the environment makes of it.
def PatternSource.OccursIn (env : Environment) (p : PatternSource) (text : String) : Prop :=
  ∃ occursIn, env.pattern p = some occursIn ∧ occursIn text

-- A string stands for a pattern that respects case.
def Given.pattern? : Given → Option PatternSource
  | .pattern p => some p
  | .value (.string source) => some ⟨source, false⟩
  | .value _ => none

-- The same for what has been bound.
def Operand.pattern? : Operand → Option PatternSource
  | .pattern p => some p
  | .value (.string source) => some ⟨source, false⟩
  | .value _ => none

theorem Operand.pattern?_ofGiven {operator : Operator} (g : Given) (takes : operator.takesPattern) :
    (ofGiven operator [g]).pattern? = g.pattern? := by
  rw [ofGiven_of_takesPattern g takes]
  rcases g with v | p
  · cases v <;> rfl
  · rfl

theorem Filter.pattern_eq_ok_iff {f : Filter} {pattern : String → Bool} :
    f.pattern env = .ok pattern ↔
      ∃ p, f.operand.pattern? = some p ∧ env.pattern p = some pattern := by
  have read (p : PatternSource) :
      readPattern env p = .ok pattern ↔ env.pattern p = some pattern := by
    unfold readPattern
    split <;> simp [*]
  unfold Filter.pattern
  split
  case h_1 p eq => simp [eq, Operand.pattern?, read]
  case h_2 source eq => simp [eq, Operand.pattern?, read ⟨source, false⟩]
  case h_3 v not_string eq =>
    have none : f.operand.pattern? = none := by
      cases v with
      | string => cases not_string _ rfl
      | _ => rw [eq]; rfl
    simp [none]

namespace Condition

def values (c : Condition) : List Value := c.givens.map Given.toValue

-- The value is a string in which the pattern of the condition occurs.
def Matches (env : Environment) (c : Condition) (v : Value) : Prop :=
  ∃ g p text, c.givens = [g] ∧ g.pattern? = some p ∧ v = .string text ∧ p.OccursIn env text

-- The value stands in the given order to the single value of the condition.
def Compares (c : Condition) (v : Value) (ordered : Ordering → Bool) : Prop :=
  ∃ w, c.values = [w] ∧ ordered (v.compare w)

-- What a condition says about a document.
def Holds (env : Environment) (c : Condition) (document : Fields) : Prop :=
  let field := document.value c.predicate.field
  match c.predicate.comparator with
  | .equal => ∃ v ∈ c.values, field.equals v
  | .notEqual => ∀ v ∈ c.values, ¬field.equals v
  | .greaterThan => c.Compares field Ordering.isGT
  | .greaterThanOrEqual => c.Compares field Ordering.isGE
  | .lesserThan => c.Compares field Ordering.isLT
  | .lesserThanOrEqual => c.Compares field Ordering.isLE
  | .matching => c.Matches env field
  | .notMatching => ¬c.Matches env field
  | .containing => ∀ v ∈ c.values, field.Has v
  | .notContaining => ∀ v ∈ c.values, ¬field.Has v
  | .containingOneOf => ∃ v ∈ c.values, field.Has v
  | .notContainingOneOf => ∃ v ∈ c.values, ¬field.Has v

end Condition

-- All conditions have to hold, or one of them.
def Question.Holds (env : Environment) (question : Question) (document : Fields) : Prop :=
  match question.connective with
  | .and => ∀ c ∈ question.conditions, c.Holds env document
  | .or => ∃ c ∈ question.conditions, c.Holds env document

theorem Value.isIn_iff_has (v collection : Value) : v.isIn collection ↔ collection.Has v := by
  cases collection <;> simp [isIn, elements, Has]

namespace Condition

variable {c : Condition} {i : Nat} {patterns : Patterns} {document : Fields}

theorem single_or_multiple (c : Condition) :
    (∃ g, c.givens = [g]) ∨ (c.givens.length != 1) = true := by
  rcases c.givens with _ | ⟨g, _ | ⟨g', gs⟩⟩ <;> simp

theorem Accepted.single (accepted : c.Accepted) (singular : c.predicate.comparator.isSingular) :
    ∃ g, c.givens = [g] :=
  List.length_eq_one_iff.mp (accepted singular)

-- Anything but a single value is bound as a list.
theorem operandValue_of_multiple (multiple : (c.givens.length != 1) = true) :
    (c.filter i).operandValue = .array c.values := by
  rw [Filter.operandValue, filter_operand, Operand.ofGiven_of_multiple _ (bne_iff_ne.mp multiple),
    values]

-- A single value is bound as it is, unless its operator takes lists or patterns.
theorem operandValue_of_single (single : c.givens = [g])
    (list : (c.filter i).operator.takesList = false)
    (pattern : (c.filter i).operator.takesPattern = false) :
    (c.filter i).operandValue = g.toValue := by
  cases g <;>
    simp [Operand.ofGiven, Filter.operandValue, single, list, pattern, Given.toValue]

theorem operandValue_of_takesList (list : (c.filter i).operator.takesList) :
    (c.filter i).operandValue = .array c.values := by
  rw [Filter.operandValue, filter_operand, Operand.ofGiven_of_takesList _ list, values]

theorem resolve_single (single : c.givens = [g]) (h : c.predicate.comparator = comparator)
    (list : (Operator.ofComparator false comparator).takesList = false)
    (pattern : (Operator.ofComparator false comparator).takesPattern = false) :
    (c.filter i).operator = .ofComparator false comparator ∧
      (c.filter i).operandValue = g.toValue := by
  have operator : (c.filter i).operator = .ofComparator false comparator := by
    simp [filter_operator, single, h]
  exact ⟨operator, operandValue_of_single single (operator ▸ list) (operator ▸ pattern)⟩

theorem resolve_multiple (multiple : (c.givens.length != 1) = true)
    (h : c.predicate.comparator = comparator) :
    (c.filter i).operator = .ofComparator true comparator ∧
      (c.filter i).operandValue = .array c.values :=
  ⟨by rw [filter_operator, multiple, h], operandValue_of_multiple multiple⟩

-- For one value as for several, the field is compared with each of them.
theorem holds_filter_equality
    (h : c.predicate.comparator = .equal ∨ c.predicate.comparator = .notEqual) :
    (c.filter i).holds patterns document ↔ c.Holds env document := by
  rcases h with h | h
  all_goals
    rcases c.single_or_multiple with ⟨g, single⟩ | multiple
    case inl =>
      have ⟨operator, operand⟩ := resolve_single (i := i) single h rfl rfl
      simp [Holds, h, Filter.holds, operator, operand, Operator.ofComparator, values, single]
    case inr =>
      have ⟨operator, operand⟩ := resolve_multiple (i := i) multiple h
      simp [Holds, h, Filter.holds, operator, operand, Operator.ofComparator, Comparator.isReversed,
        Value.isIn, Value.elements, Value.equals_comm]

-- For one value as for several, each of them is looked for in the field.
theorem holds_filter_containment
    (h : c.predicate.comparator = .containing ∨ c.predicate.comparator = .notContaining) :
    (c.filter i).holds patterns document ↔ c.Holds env document := by
  rcases h with h | h
  all_goals
    simp only [Holds, h, ← Value.isIn_iff_has]
    rcases c.single_or_multiple with ⟨g, single⟩ | multiple
    case inl =>
      have ⟨operator, operand⟩ := resolve_single (i := i) single h rfl rfl
      simp [h, Filter.holds, operator, operand, Operator.ofComparator, Comparator.isReversed,
        values, single]
    case inr =>
      have ⟨operator, operand⟩ := resolve_multiple (i := i) multiple h
      simp [Filter.holds, operator, operand, Operator.ofComparator, Value.elements]

-- The operators of these comparators take lists, so that the number of values makes no difference.
theorem holds_filter_oneOf
    (h : c.predicate.comparator = .containingOneOf ∨
      c.predicate.comparator = .notContainingOneOf) :
    (c.filter i).holds patterns document ↔ c.Holds env document := by
  have list : (c.filter i).operator.takesList := by
    rcases h with h | h <;> rw [filter_operator, h] <;> rfl
  have operand := operandValue_of_takesList list
  rcases h with h | h
  all_goals
    simp [Holds, h, Filter.holds, filter_operator, operand, Operator.ofComparator, Value.elements,
      ← Value.isIn_iff_has]

theorem compares_iff (single : c.givens = [g]) (v : Value) (ordered : Ordering → Bool) :
    c.Compares v ordered ↔ ordered (v.compare g.toValue) := by
  simp [Compares, values, single]

theorem holds_filter_ordered (accepted : c.Accepted)
    (h : c.predicate.comparator ∈
      [.greaterThan, .greaterThanOrEqual, .lesserThan, .lesserThanOrEqual]) :
    (c.filter i).holds patterns document ↔ c.Holds env document := by
  simp only [List.mem_cons, List.not_mem_nil, or_false] at h
  have singular : c.predicate.comparator.isSingular := by
    rcases h with h | h | h | h <;> rw [h] <;> rfl
  have ⟨g, single⟩ := accepted.single singular
  rcases h with h | h | h | h
  all_goals
    have ⟨operator, operand⟩ := resolve_single (i := i) single h rfl rfl
    simp only [Holds, h, compares_iff single, Filter.holds, operator, operand,
      Operator.ofComparator, filter_field]
    cases (document.value c.predicate.field).compare g.toValue <;> decide

theorem takesPattern_iff :
    (c.filter i).operator.takesPattern ↔
      c.predicate.comparator = .matching ∨ c.predicate.comparator = .notMatching := by
  rw [filter_operator]
  cases c.predicate.comparator <;> cases c.givens.length != 1 <;> decide

-- The pattern that is read for a filter is the one that its condition is given.
theorem readPattern_of_single (single : c.givens = [g])
    (takes : (c.filter i).operator.takesPattern) (read : (c.filter i).pattern env = .ok pattern) :
    ∃ p, g.pattern? = some p ∧ env.pattern p = some pattern := by
  rw [Filter.pattern_eq_ok_iff, filter_operand, single, Operand.pattern?_ofGiven g takes] at read
  exact read

theorem patternOccurs_iff (single : c.givens = [g])
    (takes : (c.filter i).operator.takesPattern) (read : (c.filter i).pattern env = .ok pattern)
    (held : patterns.get? (c.filter i).bind = some pattern) (v : Value) :
    (c.filter i).patternOccurs patterns v ↔ c.Matches env v := by
  have ⟨p, given, read⟩ := readPattern_of_single single takes read
  simp only [Filter.patternOccurs, held, Matches, PatternSource.OccursIn]
  cases v <;> simp_all

theorem holds_filter_pattern (accepted : c.Accepted)
    (takes : (c.filter i).operator.takesPattern) (read : (c.filter i).pattern env = .ok pattern)
    (held : patterns.get? (c.filter i).bind = some pattern) :
    (c.filter i).holds patterns document ↔ c.Holds env document := by
  have comparator := takesPattern_iff.mp takes
  have ⟨g, single⟩ := accepted.single (by rcases comparator with h | h <;> rw [h] <;> rfl)
  have occurs := patternOccurs_iff single takes read held (document.value c.predicate.field)
  rcases comparator with h | h
  all_goals simp [Filter.holds, filter_operator, Operator.ofComparator, Holds, h, ← occurs]

-- A filter holds of a document just if the document meets the condition, provided that the filter
-- finds its pattern under its own name.
theorem holds_filter_iff (accepted : c.Accepted)
    (own : (c.filter i).operator.takesPattern → ∃ pattern,
      (c.filter i).pattern env = .ok pattern ∧ patterns.get? (c.filter i).bind = some pattern) :
    (c.filter i).holds patterns document ↔ c.Holds env document := by
  cases h : c.predicate.comparator
  case equal | notEqual => exact holds_filter_equality (by simp [h])
  case containing | notContaining => exact holds_filter_containment (by simp [h])
  case containingOneOf | notContainingOneOf => exact holds_filter_oneOf (by simp [h])
  case matching | notMatching =>
    have takes : (c.filter i).operator.takesPattern := takesPattern_iff.mpr (by simp [h])
    have ⟨pattern, read, held⟩ := own takes
    exact holds_filter_pattern accepted takes read held
  all_goals exact holds_filter_ordered accepted (by simp [h])

end Condition

namespace Plan

variable {plan : Plan} {question : Question} {patterns : Patterns}

-- Each filter's pattern stays under its name, since no other filter has that name.
theorem get?_of_readPatterns {fs : List Filter} {before after : Patterns}
    (distinct : (fs.map (·.bind)).Nodup)
    (h : fs.foldlM (fun ps f => do return ps.insert f.bind (← f.pattern env)) before = .ok after) :
    (∀ name, name ∉ fs.map (·.bind) → after.get? name = before.get? name) ∧
      ∀ f ∈ fs, ∃ pattern, f.pattern env = .ok pattern ∧ after.get? f.bind = some pattern := by
  induction fs generalizing before with
  | nil => cases h; simp
  | cons f fs ih =>
    have ⟨next, step, rest⟩ := bind_eq_ok_iff.mp h
    have ⟨pattern, read, eq⟩ := bind_eq_ok_iff.mp step
    cases eq
    have ⟨absent, distinct⟩ := List.nodup_cons.mp distinct
    have ⟨others, own⟩ := ih distinct rest
    constructor
    · intro name notMem
      rw [List.map_cons, List.mem_cons, not_or] at notMem
      have ⟨ne, notMem⟩ := notMem
      rw [others name notMem, NameMap.get?_insert, if_neg ne]
    · intro g mem
      rcases List.mem_cons.mp mem with rfl | mem
      · exact ⟨pattern, read, by rw [others _ absent, NameMap.get?_insert_self]⟩
      · exact own g mem

theorem StandsFor.get?_patterns (stands : plan.StandsFor question)
    (read : plan.patterns env = .ok patterns) (mem : f ∈ plan.filters)
    (takes : f.operator.takesPattern) :
    ∃ pattern, f.pattern env = .ok pattern ∧ patterns.get? f.bind = some pattern := by
  have distinct : ((plan.filters.filter (·.operator.takesPattern)).map (·.bind)).Nodup :=
    stands.nodup_binds.sublist (List.filter_sublist.map _)
  exact (get?_of_readPatterns distinct read).right f (List.mem_filter.mpr ⟨mem, takes⟩)

theorem StandsFor.holds_filter_iff (stands : plan.StandsFor question)
    (read : plan.patterns env = .ok patterns) (i : Nat) (h : i < question.conditions.length)
    (document : Fields) :
    (question.conditions[i].filter i).holds patterns document ↔
      question.conditions[i].Holds env document := by
  refine Condition.holds_filter_iff (stands.accepted _ (List.getElem_mem h)) fun takes => ?_
  refine stands.get?_patterns read ?_ takes
  rw [stands.filters]
  exact List.mem_mapIdx.mpr ⟨i, h, rfl⟩

theorem StandsFor.holds_iff (stands : plan.StandsFor question)
    (read : plan.patterns env = .ok patterns) (document : Fields) :
    plan.holds patterns document ↔ question.Holds env document := by
  have filters := stands.holds_filter_iff read
  have connective : plan.connective = question.connective := by
    rw [Plan.connective, stands.connective, Question.connective]
  simp only [Plan.holds, Question.Holds, connective, stands.filters]
  cases question.connective with
  | and =>
    simp only [List.all_eq_true, List.mem_mapIdx]
    constructor
    · rintro all c mem
      obtain ⟨i, lt, eq⟩ := List.getElem_of_mem mem
      exact eq ▸ (filters i lt document).mp (all _ ⟨i, lt, rfl⟩)
    · rintro all f ⟨i, lt, rfl⟩
      exact (filters i lt document).mpr (all _ (List.getElem_mem lt))
  | or =>
    simp only [List.any_eq_true, List.mem_mapIdx]
    constructor
    · rintro ⟨f, ⟨i, lt, rfl⟩, holds⟩
      exact ⟨_, List.getElem_mem lt, (filters i lt document).mp holds⟩
    · rintro ⟨c, mem, holds⟩
      obtain ⟨i, lt, eq⟩ := List.getElem_of_mem mem
      exact ⟨_, ⟨i, lt, rfl⟩, (filters i lt document).mpr (eq ▸ holds)⟩

-- Whether all names and patterns of some calls can be read is found out by reading them.
theorem exists_readable (env : Environment) (calls : List Call)
    (readable : ((build? none calls).bind Except.toOption).any (·.patterns env |>.isOk)) :
    ∃ plan patterns, build? none calls = some (.ok plan) ∧ plan.patterns env = .ok patterns := by
  obtain ⟨plan, built, readable⟩ := (Option.any_eq_true _ _).mp readable
  obtain ⟨result, eq, built⟩ := Option.bind_eq_some_iff.mp built
  cases result with
  | error e => cases built
  | ok plan =>
    cases built
    cases read : plan.patterns env with
    | error e => rw [read] at readable; cases readable
    | ok patterns => exact ⟨plan, patterns, eq, read⟩

-- The selection of a plan is the meaning of the calls that have built it.
theorem holds_iff_calls_hold {calls : List Call} (built : build? none calls = some (.ok plan))
    (read : plan.patterns env = .ok patterns) (document : Fields) :
    plan.holds patterns document ↔ (Question.ofCalls calls).Holds env document :=
  (standsFor_ofCalls built).holds_iff read document

-- A pattern, no value at all and two values of different types, joined by a disjunction.
theorem holds_iff_calls_hold_of_three :
    let env := Environment.ofKeys fun _ => "k"
    let calls : List Call := [
      .find "findByNameMatching" [.pattern ⟨"^a", false⟩],
      .filter .or "tagsContaining" [],
      .filter .or "priceNot" [.value (.string "x"), .value .null]]
    ∃ plan patterns, build? none calls = some (.ok plan) ∧ plan.patterns env = .ok patterns ∧
      ∀ document, plan.holds patterns document ↔ (Question.ofCalls calls).Holds env document := by
  intro env calls
  have ⟨plan, patterns, built, read⟩ := exists_readable env calls (by decide +kernel)
  exact ⟨plan, patterns, built, read, holds_iff_calls_hold built read⟩

end Plan
end RecordStore
