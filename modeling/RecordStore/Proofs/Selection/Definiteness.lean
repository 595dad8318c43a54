import RecordStore.Proofs.Selection.Meaning

-- Selection never makes do with a substitute: the filters of a plan have all
-- that their operators need.
--
-- A pattern that is not there would count as one that does not occur, an operand that is no list as
-- an empty one, and a pattern as `null` where it is compared as a value. Evaluation that has no
-- result in these cases has one anyway.

namespace RecordStore

variable {env : Environment}

namespace Operand

-- A pattern cannot be compared.
def value? : Operand → Option Value
  | .value v => some v
  | .pattern _ => none

def items? : Operand → Option (List Value)
  | .value (.array items) => some items
  | _ => none

end Operand

namespace Filter

section

variable (patterns : Patterns) (document : Fields) (f : Filter)

def occurs? : Option Bool :=
  (patterns.get? f.bind).map fun occursIn => (document.value f.field).string?.any occursIn

-- Which side is looked for in the other one.
def isMember? : Option Bool :=
  if f.comparator.isReversed then f.operand.value?.map (·.isIn (document.value f.field))
  else f.operand.items?.map fun items => items.any (·.equals (document.value f.field))

-- There is no result if the operand is not what the operator needs, or if the pattern is missing.
def holds? : Option Bool :=
  let field := document.value f.field
  match f.operator with
  | .eq => f.operand.value?.map (field.equals ·)
  | .ne => f.operand.value?.map (!field.equals ·)
  | .gt => f.operand.value?.map (field.compare · == .gt)
  | .gte => f.operand.value?.map (field.compare · != .lt)
  | .lt => f.operand.value?.map (field.compare · == .lt)
  | .lte => f.operand.value?.map (field.compare · != .gt)
  | .isIn => f.isMember? document
  | .notIn => (f.isMember? document).map (!·)
  | .like => f.occurs? patterns document
  | .notLike => (f.occurs? patterns document).map (!·)
  | .allIn => f.operand.items?.map fun items => items.all (·.isIn field)
  | .noneIn => f.operand.items?.map fun items => !items.any (·.isIn field)
  | .anyIn => f.operand.items?.map fun items => items.any (·.isIn field)
  | .anyNotIn => f.operand.items?.map fun items => items.any fun v => !v.isIn field

end

-- What the operators need: a pattern of the filter's own, a list of elements, a list in which the
-- field is looked for, or else a value.
structure Equipped (env : Environment) (f : Filter) (patterns : Patterns) : Prop where
  pattern : f.operator.takesPattern → ∃ p pattern, f.operand.pattern? = some p ∧
    env.pattern p = some pattern ∧ patterns.get? f.bind = some pattern
  elements : f.operator ∈ [.allIn, .noneIn, .anyIn, .anyNotIn] →
    ∃ items, f.operand = .value (.array items)
  members : f.operator ∈ [.isIn, .notIn] → ¬f.comparator.isReversed →
    ∃ items, f.operand = .value (.array items)
  value : ∀ p, f.operand = .pattern p → f.operator.takesPattern
  -- A single value is looked for by another operator.
  several : f.operator ∈ [.allIn, .noneIn] → ∀ items, f.operand = .value (.array items) →
    items.length ≠ 1

variable {patterns : Patterns} {document : Fields} {f : Filter} {b : Bool}

theorem operandValue_of_value? (h : f.operand.value? = some v) : f.operandValue = v := by
  unfold operandValue
  split <;> simp_all [Operand.value?]

theorem operandValue_of_items? (h : f.operand.items? = some items) :
    f.operandValue = .array items := by
  unfold Operand.items? at h
  split at h <;> cases h
  case h_1 eq => rw [operandValue, eq]

theorem patternOccurs_of_occurs? (h : f.occurs? patterns document = some b) :
    f.patternOccurs patterns (document.value f.field) = b := by
  obtain ⟨pattern, held, rfl⟩ := Option.map_eq_some_iff.mp h
  unfold patternOccurs
  rw [held]
  cases document.value f.field <;> rfl

theorem isIn_of_isMember? (h : f.isMember? document = some b) :
    (if f.comparator.isReversed then f.operandValue.isIn (document.value f.field)
      else (document.value f.field).isIn f.operandValue) = b := by
  unfold isMember? at h
  split at h
  case isTrue reversed =>
    obtain ⟨v, held, rfl⟩ := Option.map_eq_some_iff.mp h
    rw [if_pos reversed, operandValue_of_value? held]
  case isFalse unreversed =>
    obtain ⟨items, held, rfl⟩ := Option.map_eq_some_iff.mp h
    rw [if_neg unreversed, operandValue_of_items? held]
    rfl

-- Where there is a result, it is the one that the selection goes by.
theorem holds_of_holds? (h : f.holds? patterns document = some b) :
    f.holds patterns document = b := by
  unfold holds? at h
  unfold holds
  generalize f.operator = operator at h ⊢
  cases operator with
  | eq | ne | gt | gte | lt | lte =>
    obtain ⟨v, held, rfl⟩ := Option.map_eq_some_iff.mp h
    rw [operandValue_of_value? held]
  | isIn => exact isIn_of_isMember? h
  | notIn =>
    obtain ⟨found, member, rfl⟩ := Option.map_eq_some_iff.mp h
    rw [← isIn_of_isMember? member]
    dsimp only
    split <;> rfl
  | like => exact patternOccurs_of_occurs? h
  | notLike =>
    obtain ⟨found, occurs, rfl⟩ := Option.map_eq_some_iff.mp h
    rw [← patternOccurs_of_occurs? occurs]
  | allIn | noneIn | anyIn | anyNotIn =>
    obtain ⟨items, held, rfl⟩ := Option.map_eq_some_iff.mp h
    rw [operandValue_of_items? held]
    rfl

namespace Equipped

theorem occurs? (equipped : f.Equipped env patterns) (takes : f.operator.takesPattern)
    (document : Fields) :
    ∃ b, f.occurs? patterns document = some b := by
  have ⟨_, pattern, _, _, held⟩ := equipped.pattern takes
  exact ⟨_, by rw [Filter.occurs?, held]; rfl⟩

theorem value? (equipped : f.Equipped env patterns) (takes : ¬f.operator.takesPattern) :
    ∃ v, f.operand.value? = some v := by
  cases eq : f.operand with
  | value v => exact ⟨v, rfl⟩
  | pattern p => exact absurd (equipped.value p eq) takes

theorem isMember? (equipped : f.Equipped env patterns) (takes : f.operator ∈ [.isIn, .notIn])
    (document : Fields) :
    ∃ b, f.isMember? document = some b := by
  have no_pattern : ¬f.operator.takesPattern := by
    simp only [List.mem_cons, List.not_mem_nil, or_false] at takes
    rcases takes with op | op <;> rw [op] <;> decide
  unfold Filter.isMember?
  split
  case isTrue =>
    have ⟨v, held⟩ := equipped.value? no_pattern
    exact ⟨_, by rw [held]; rfl⟩
  case isFalse unreversed =>
    have ⟨items, eq⟩ := equipped.members takes unreversed
    exact ⟨_, by rw [eq]; rfl⟩

theorem holds? (equipped : f.Equipped env patterns) (document : Fields) :
    f.holds? patterns document = some (f.holds patterns document) := by
  have result : ∃ b, f.holds? patterns document = some b := by
    have occurs (takes) := equipped.occurs? takes document
    have isMember (takes) := equipped.isMember? takes document
    have value := equipped.value?
    have elements := equipped.elements
    unfold Filter.holds?
    generalize f.operator = operator at occurs isMember value elements ⊢
    cases operator with
    | eq | ne | gt | gte | lt | lte =>
      have ⟨v, held⟩ := value (by decide)
      exact ⟨_, by rw [held]; rfl⟩
    | isIn => exact isMember (by decide)
    | notIn =>
      have ⟨b, member⟩ := isMember (by decide)
      exact ⟨_, by rw [member]; rfl⟩
    | like => exact occurs (by decide)
    | notLike =>
      have ⟨b, found⟩ := occurs (by decide)
      exact ⟨_, by rw [found]; rfl⟩
    | allIn | noneIn | anyIn | anyNotIn =>
      have ⟨items, eq⟩ := elements (by decide)
      exact ⟨_, by rw [eq]; rfl⟩
  have ⟨b, eq⟩ := result
  rw [eq, holds_of_holds? eq]

end Equipped
end Filter

-- A single value is looked for in the field, or compared with it.
theorem Operator.ofComparator_single (c : Comparator) : ofComparator false c ∉ [allIn, noneIn] ∧
    (ofComparator false c ∈ [isIn, notIn] → c.isReversed) := by
  cases c <;> decide

namespace Condition

variable {c : Condition} {i : Nat} {patterns : Patterns}

theorem several_of_operator (h : (c.filter i).operator ∈ [.allIn, .noneIn] ∨
    (c.filter i).operator ∈ [.isIn, .notIn] ∧
    ¬(c.filter i).comparator.isReversed) : c.givens.length ≠ 1 := by
  intro single
  have ⟨not_all, reversed⟩ := Operator.ofComparator_single c.predicate.comparator
  rw [filter_operator, single, filter_comparator] at h
  rcases h with all | ⟨member, unreversed⟩
  · exact not_all all
  · exact unreversed (reversed member)

theorem equipped_filter (own : (c.filter i).operator.takesPattern →
      ∃ pattern, (c.filter i).pattern env = .ok pattern ∧
        patterns.get? (c.filter i).bind = some pattern) :
    (c.filter i).Equipped env patterns where
  pattern takes := by
    have ⟨pattern, read, held⟩ := own takes
    have ⟨p, found, read⟩ := Filter.pattern_eq_ok_iff.mp read
    exact ⟨p, pattern, found, read, held⟩
  elements takes := by
    simp only [List.mem_cons, List.not_mem_nil, or_false] at takes
    rcases takes with op | op | op | op
    case inl | inr.inl =>
      have several : c.givens.length ≠ 1 := several_of_operator (i := i) (.inl (by simp [op]))
      exact ⟨_, Operand.ofGiven_of_multiple _ several⟩
    all_goals
      have takes : (c.filter i).operator.takesList := by rw [op]; rfl
      exact ⟨_, Operand.ofGiven_of_takesList _ takes⟩
  members takes unreversed :=
    ⟨_, Operand.ofGiven_of_multiple _ (several_of_operator (.inr ⟨takes, unreversed⟩))⟩
  value _ eq := Operand.takesPattern_of_ofGiven eq
  several takes items eq := by
    have several : c.givens.length ≠ 1 := several_of_operator (.inl takes)
    rw [filter_operand, Operand.ofGiven_of_multiple _ several] at eq
    cases eq
    rwa [List.length_map]

end Condition

namespace Plan

variable {plan : Plan} {patterns : Patterns}

-- Each filter is evaluated, whether or not the others have already decided.
def holds? (plan : Plan) (patterns : Patterns) (document : Fields) : Option Bool :=
  (plan.filters.mapM (Filter.holds? patterns document)).map fun results =>
    match plan.connective with
    | .and => results.all id
    | .or => results.any id

theorem StandsFor.equipped {question : Question} (stands : plan.StandsFor question)
    (read : plan.patterns env = .ok patterns) : ∀ f ∈ plan.filters, f.Equipped env patterns := by
  intro f mem
  have own := stands.get?_patterns read mem
  rw [stands.filters] at mem
  obtain ⟨i, lt, rfl⟩ := List.mem_mapIdx.mp mem
  exact Condition.equipped_filter own

theorem holds?_of_equipped (equipped : ∀ f ∈ plan.filters, f.Equipped env patterns)
    (document : Fields) :
    plan.holds? patterns document = some (plan.holds patterns document) := by
  have results := mapM_eq_some_map fun f mem => (equipped f mem).holds? document
  unfold holds? holds
  rw [results]
  cases plan.connective <;> simp

-- Whatever calls have built a plan, its selection has no need of a substitute.
theorem selects_without_substitutes {calls : List Call}
    (built : build? none calls = some (.ok plan))
    (read : plan.patterns env = .ok patterns) :
    (∀ f ∈ plan.filters, f.Equipped env patterns) ∧
    ∀ document, plan.holds? patterns document = some (plan.holds patterns document) :=
  have equipped := (standsFor_ofCalls built).equipped read
  ⟨equipped, holds?_of_equipped equipped⟩

-- Fields whose names differ by underscores in front, a pattern by its source alone,
-- two values and none.
theorem selects_without_substitutes_of_four :
    let env := Environment.ofKeys fun _ => "k"
    let calls : List Call := [
      .find "findByNameMatching" [.pattern ⟨"^a", false⟩],
      .filter .or "_nameNotMatching" [.value (.string "b$")],
      .filter .or "tagsContaining" [.value .null, .value (.string "x")],
      .filter .or "price" []]
    ∃ plan patterns, build? none calls = some (.ok plan) ∧ plan.patterns env = .ok patterns ∧
      (∀ f ∈ plan.filters, f.Equipped env patterns) ∧
      ∀ document, plan.holds? patterns document = some (plan.holds patterns document) := by
  intro env calls
  have ⟨plan, patterns, built, read⟩ := exists_readable env calls (by decide +kernel)
  exact ⟨plan, patterns, built, read, selects_without_substitutes built read⟩

end Plan
end RecordStore
