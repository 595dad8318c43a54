import RecordStore.Proofs.Selection.Arrangement
import RecordStore.Proofs.Selection.Meaning

-- Questions that ask for the opposite of each other: every document is an answer to
-- exactly one of them.

namespace RecordStore

variable {env : Environment}

-- The comparator that holds of the same values exactly where this one does not.
def Comparator.opposite : Comparator → Comparator
  | equal => notEqual
  | notEqual => equal
  | greaterThan => lesserThanOrEqual
  | greaterThanOrEqual => lesserThan
  | lesserThan => greaterThanOrEqual
  | lesserThanOrEqual => greaterThan
  | matching => notMatching
  | notMatching => matching
  | containing => notContainingOneOf
  | notContaining => containingOneOf
  | containingOneOf => notContaining
  | notContainingOneOf => containing

def Connective.opposite : Connective → Connective
  | and => or
  | or => and

namespace Condition

variable {c : Condition} {document : Fields}

-- The same field is compared with the same values.
def opposite (c : Condition) : Condition where
  predicate := ⟨c.predicate.field, c.predicate.comparator.opposite⟩
  givens := c.givens

@[simp]
theorem opposite_field : c.opposite.predicate.field = c.predicate.field :=
  rfl

@[simp]
theorem opposite_comparator : c.opposite.predicate.comparator = c.predicate.comparator.opposite :=
  rfl

@[simp]
theorem opposite_values : c.opposite.values = c.values :=
  rfl

@[simp]
theorem opposite_matches : c.opposite.Matches env = c.Matches env :=
  rfl

@[simp]
theorem opposite_compares : c.opposite.Compares = c.Compares :=
  rfl

-- Two values are in one order only.
theorem compares_iff_not (single : c.givens = [g]) (v : Value) {ordered ordered' : Ordering → Bool}
    (contrary : ∀ o, ordered' o = !ordered o) : c.Compares v ordered' ↔ ¬c.Compares v ordered := by
  rw [compares_iff single, compares_iff single, contrary, Bool.not_eq_true', Bool.not_eq_true]

theorem holds_opposite_iff (accepted : c.Accepted) (document : Fields) :
    c.opposite.Holds env document ↔ ¬c.Holds env document := by
  unfold Holds
  simp only [opposite_field, opposite_comparator, opposite_values, opposite_matches,
    opposite_compares]
  cases h : c.predicate.comparator with
  | greaterThan | greaterThanOrEqual | lesserThan | lesserThanOrEqual =>
    have ⟨g, single⟩ := accepted.single (by rw [h]; rfl)
    exact compares_iff_not single _ (by decide)
  -- All values have to meet the one comparator, or one of them its opposite.
  | _ => simp [Comparator.opposite]

end Condition

namespace Question

variable {question other : Question} {document : Fields}

-- A single condition needs no connective.
structure Opposes (question other : Question) : Prop where
  conditions : other.conditions = question.conditions.map Condition.opposite
  connective : question.conditions.length ≠ 1 → other.connective = question.connective.opposite

theorem holds_of_single (single : question.conditions = [c]) (document : Fields) :
    question.Holds env document ↔ c.Holds env document := by
  unfold Holds
  cases question.connective <;> simp [single]

theorem Opposes.holds_iff (opposes : question.Opposes other)
    (accepted : ∀ c ∈ question.conditions, c.Accepted) (document : Fields) :
    other.Holds env document ↔ ¬question.Holds env document := by
  have opposite :
      ∀ c ∈ question.conditions, (c.opposite.Holds env document ↔ ¬c.Holds env document) :=
    fun c mem => Condition.holds_opposite_iff (accepted c mem) document
  by_cases length : question.conditions.length = 1
  case pos =>
    have ⟨c, single⟩ := List.length_eq_one_iff.mp length
    have single' : other.conditions = [c.opposite] := by rw [opposes.conditions, single]; rfl
    rw [holds_of_single single, holds_of_single single']
    exact opposite c (by simp [single])
  case neg =>
    have connective := opposes.connective length
    unfold Holds
    rw [connective, opposes.conditions]
    cases question.connective with
    | and => simpa [Connective.opposite] using exists_congr fun c => and_congr_right (opposite c)
    | or => simpa [Connective.opposite] using forall₂_congr opposite

end Question

namespace Plan

variable {plan other : Plan} {patterns patterns' : Patterns}

theorem StandsFor.holds_opposite {question question' : Question} (stands : plan.StandsFor question)
    (stands' : other.StandsFor question') (read : plan.patterns env = .ok patterns)
    (read' : other.patterns env = .ok patterns') (opposes : question.Opposes question')
    (document : Fields) :
    other.holds patterns' document = !plan.holds patterns document := by
  have meaning : question'.Holds env document ↔ ¬question.Holds env document :=
    opposes.holds_iff stands.accepted document
  rw [← stands.holds_iff read, ← stands'.holds_iff read'] at meaning
  rw [Bool.eq_iff_iff, meaning, Bool.not_eq_true', Bool.not_eq_true]

-- Of two plans that are built of opposite conditions, exactly one holds of any document, so that
-- each document of a collection is a result of one of them and of no other.
theorem opposites_split {calls calls' : List Call} (built : build? none calls = some (.ok plan))
    (built' : build? none calls' = some (.ok other)) (read : plan.patterns env = .ok patterns)
    (read' : other.patterns env = .ok patterns')
    (opposes : (Question.ofCalls calls).Opposes (Question.ofCalls calls')) :
    (∀ document, other.holds patterns' document = !plan.holds patterns document) ∧
    ∀ (store : Store) name collection, store.collections.get? name = some collection →
      ∃ results results', store.find env name { plan with window := none } = .ok results ∧
        store.find env name { other with window := none } = .ok results' ∧
        (results ++ results').Perm collection.documents ∧ results.Disjoint results' := by
  have opposite :=
    (standsFor_ofCalls built).holds_opposite (standsFor_ofCalls built') read read' opposes
  refine ⟨opposite, fun store name collection held => ?_⟩
  have found : store.unwindowed env name (some plan) plan.sorts = _ :=
    Store.unwindowed_eq held (by simpa using read) plan.sorts
  have found' : store.unwindowed env name (some other) other.sorts = _ :=
    Store.unwindowed_eq held (by simpa using read') other.sorts
  simp only [Option.all_some] at found found'
  have perm :=
    (arranged_sortDocuments plan.sorts (collection.documents.filter (plan.holds patterns))).perm
  have perm' :=
    (arranged_sortDocuments other.sorts (collection.documents.filter (other.holds patterns'))).perm
  refine ⟨_, _, found, found', ?_, fun d mem mem' => ?_⟩
  · rw [funext opposite] at perm' ⊢
    exact (perm.append perm').trans (List.filter_append_perm ..)
  · have holds := (List.mem_filter.mp (perm.subset mem)).2
    have holds' := (List.mem_filter.mp (perm'.subset mem')).2
    rw [opposite, holds] at holds'
    cases holds'

-- Patterns, no value at all and two values of different types. The one plan is a conjunction, the
-- other one a disjunction.
theorem opposites_split_of_three :
    let env := Environment.ofKeys fun _ => "k"
    let calls : List Call := [
      .find "findByNameMatching" [.pattern ⟨"^a", false⟩],
      .filter .and "tagsContaining" [],
      .filter .and "price" [.value (.string "x"), .value .null]]
    let calls' : List Call := [
      .find "findByNameNotMatching" [.pattern ⟨"^a", false⟩],
      .filter .or "tagsNotContainingOneOf" [],
      .filter .or "priceNot" [.value (.string "x"), .value .null],
      .sortBy "sortByNameAsc"]
    ∃ plan patterns other patterns', build? none calls = some (.ok plan) ∧
      build? none calls' = some (.ok other) ∧ plan.patterns env = .ok patterns ∧
      other.patterns env = .ok patterns' ∧
      ∀ document, other.holds patterns' document = !plan.holds patterns document := by
  intro env calls calls'
  have opposes : (Question.ofCalls calls).Opposes (Question.ofCalls calls') :=
    ⟨by rfl, fun _ => rfl⟩
  have ⟨plan, patterns, built, read⟩ := exists_readable env calls (by decide +kernel)
  have ⟨other, patterns', built', read'⟩ := exists_readable env calls' (by decide +kernel)
  have ⟨opposite, _⟩ := opposites_split built built' read read' opposes
  exact ⟨plan, patterns, other, patterns', built, built', read, read', opposite⟩

end Plan
end RecordStore
