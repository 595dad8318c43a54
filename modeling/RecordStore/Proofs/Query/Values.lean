import RecordStore.Proofs.Query.Marking
import RecordStore.Proofs.Selection.Meaning

-- The text of a query is the same whichever values are given to its filters. It only tells whether
-- a filter is given one value, and where patterns are matched, whether it is given a pattern and
-- how that matches.

namespace RecordStore

-- Whether a pattern is given, and if so, whether it ignores case.
def Given.ignoreCase? : Given → Option Bool
  | value _ => none
  | pattern p => some p.ignoreCase

-- All that a text can tell about what a comparator is given.
structure Comparator.GivenAlike (c : Comparator) (gs₁ gs₂ : List Given) : Prop where
  single : gs₁.length = 1 ↔ gs₂.length = 1
  pattern : c = .matching ∨ c = .notMatching →
    ∀ g₁ g₂, gs₁ = [g₁] → gs₂ = [g₂] → g₁.ignoreCase? = g₂.ignoreCase?

namespace Plan

-- The same calls, apart from the values that they are given.
inductive Call.SameButValues : Call → Call → Prop where
  | find (alike : ∀ p, Name.finder name = .ok p → p.comparator.GivenAlike gs₁ gs₂) :
    SameButValues (.find name gs₁) (.find name gs₂)
  | filter (alike : ∀ p, Name.continuation name = .ok p → p.comparator.GivenAlike gs₁ gs₂) :
    SameButValues (.filter c name gs₁) (.filter c name gs₂)
  | connect : SameButValues (.connect c) (.connect c)
  | sortBy : SameButValues (.sortBy name) (.sortBy name)
  | slice : SameButValues (.slice start stop) (.slice start stop)

-- Plans that can be told apart by what their filters are given, if at all.
structure SameText (p q : Plan) : Prop where
  filters : List.Forall₂ Filter.SameText p.filters q.filters
  connective : p.connective? = q.connective?
  sorts : p.sorts = q.sorts
  window : p.window = q.window

end Plan

variable {f g : Filter}

theorem Filter.SameText.filterText (same : f.SameText g) :
    Query.filterText f = Query.filterText g := by
  rw [← String.toList_inj, filterText_toList, filterText_toList, ← same.form, ← same.field,
    ← same.bind]
  cases form : f.form with
  | plain => rw [same.operator (by rw [form]; trivial)]
  | reversed => rw [same.operator (by rw [form]; trivial)]
  | test => simp [Form.text_test]

namespace Condition

variable {p : Predicate} {gs₁ gs₂ : List Given} {i : Nat}

theorem form_filter (takes : ¬(p.comparator = .matching ∨ p.comparator = .notMatching))
    (gs : List Given) (i : Nat) :
    ((Condition.mk p gs).filter i).form =
      if p.comparator.isReversed then .reversed else .plain := by
  have ⟨_, operand⟩ :=
    Operand.ofGiven_of_not_takesPattern gs (mt (takesPattern_iff (c := ⟨p, gs⟩) (i := i)).mp takes)
  exact Filter.form_of_value (f := (Condition.mk p gs).filter i) operand

-- Where patterns are matched, a single given is tested if it is a pattern, and nothing else
-- of it is seen.
theorem form_filter_matching (takes : p.comparator = .matching ∨ p.comparator = .notMatching)
    (g : Given) (i : Nat) :
    ((Condition.mk p [g]).filter i).form = match g.ignoreCase? with
      | none => .plain
      | some ignoreCase => .test (p.comparator = .notMatching) ignoreCase := by
  have operand :=
    Operand.ofGiven_of_takesPattern g ((takesPattern_iff (c := ⟨p, [g]⟩) (i := i)).mpr takes)
  cases g with
  | value v =>
    rw [Filter.form_of_value (f := (Condition.mk p [.value v]).filter i) operand]
    rcases takes with matching | matching <;>
      simp [matching, Given.ignoreCase?, Comparator.isReversed]
  | pattern q =>
    rw [Filter.form_of_pattern (f := (Condition.mk p [.pattern q]).filter i) operand]
    rcases takes with matching | matching <;>
      simp [matching, filter_operator, Given.ignoreCase?, Operator.ofComparator]

theorem sameText_filter (alike : p.comparator.GivenAlike gs₁ gs₂) (i : Nat) :
    ((Condition.mk p gs₁).filter i).SameText ((Condition.mk p gs₂).filter i) := by
  have multiple : (gs₁.length != 1) = (gs₂.length != 1) := by
    rw [Bool.eq_iff_iff]
    simp [alike.single]
  refine ⟨?_, rfl, rfl, fun _ => by rw [filter_operator, filter_operator, multiple]⟩
  by_cases takes : p.comparator = .matching ∨ p.comparator = .notMatching
  case neg => rw [form_filter takes, form_filter takes]
  case pos =>
    by_cases single : gs₁.length = 1
    case pos =>
      have ⟨g₁, eq₁⟩ := List.length_eq_one_iff.mp single
      have ⟨g₂, eq₂⟩ := List.length_eq_one_iff.mp (alike.single.mp single)
      have same := alike.pattern takes g₁ g₂ eq₁ eq₂
      rw [eq₁, eq₂, form_filter_matching takes, form_filter_matching takes, same]
    case neg =>
      have operand₁ := Operand.ofGiven_of_multiple ((Condition.mk p gs₁).filter i).operator single
      have operand₂ := Operand.ofGiven_of_multiple ((Condition.mk p gs₂).filter i).operator
        (mt alike.single.mpr single)
      rw [Filter.form_of_value operand₁, Filter.form_of_value operand₂]
      rfl

end Condition

theorem Filter.sameText_of_new {p : Predicate} {gs₁ gs₂ : List Given} {i : Nat}
    (alike : p.comparator.GivenAlike gs₁ gs₂) (new₁ : Filter.new p gs₁ i = .ok f)
    (new₂ : Filter.new p gs₂ i = .ok g) : f.SameText g := by
  rw [(Condition.filter_of_new (c := ⟨p, gs₁⟩) new₁).2,
    (Condition.filter_of_new (c := ⟨p, gs₂⟩) new₂).2]
  exact Condition.sameText_filter alike i

namespace Plan

variable {p q p' q' : Plan} {call₁ call₂ : Call} {name : String} {gs₁ gs₂ : List Given}

theorem sameText_of_find
    (alike : ∀ predicate, Name.finder name = .ok predicate →
      predicate.comparator.GivenAlike gs₁ gs₂)
    (h₁ : Plan.find name gs₁ = .ok p) (h₂ : Plan.find name gs₂ = .ok q) : p.SameText q := by
  have ⟨predicate, read, h₁⟩ := bind_eq_ok_iff.mp h₁
  have ⟨f, new₁, h₁⟩ := bind_eq_ok_iff.mp h₁
  have ⟨_, read', h₂⟩ := bind_eq_ok_iff.mp h₂
  cases read.symm.trans read'
  have ⟨g, new₂, h₂⟩ := bind_eq_ok_iff.mp h₂
  cases h₁
  cases h₂
  exact ⟨.cons (Filter.sameText_of_new (alike predicate read) new₁ new₂) .nil, rfl, rfl, rfl⟩

theorem SameText.connect (same : p.SameText q) {c : Connective} (h₁ : p.connect c = .ok p')
    (h₂ : q.connect c = .ok q') : p'.SameText q' := by
  rw [eq_of_connect h₁, eq_of_connect h₂]
  exact { same with connective := rfl }

theorem SameText.pushFilter (same : p.SameText q)
    (alike : ∀ predicate, Name.continuation name = .ok predicate →
      predicate.comparator.GivenAlike gs₁ gs₂)
    (h₁ : p.pushFilter name gs₁ = .ok p') (h₂ : q.pushFilter name gs₂ = .ok q') :
    p'.SameText q' := by
  have ⟨predicate, read, h₁⟩ := bind_eq_ok_iff.mp h₁
  have ⟨f, new₁, h₁⟩ := bind_eq_ok_iff.mp h₁
  have ⟨_, read', h₂⟩ := bind_eq_ok_iff.mp h₂
  cases read.symm.trans read'
  have ⟨g, new₂, h₂⟩ := bind_eq_ok_iff.mp h₂
  cases h₁
  cases h₂
  rw [← same.filters.length_eq] at new₂
  have pushed : List.Forall₂ Filter.SameText [f] [g] :=
    .cons (Filter.sameText_of_new (alike predicate read) new₁ new₂) .nil
  exact { same with filters := List.rel_append same.filters pushed }

theorem SameText.filter (same : p.SameText q) {c : Connective}
    (alike : ∀ predicate, Name.continuation name = .ok predicate →
      predicate.comparator.GivenAlike gs₁ gs₂)
    (h₁ : p.filter c name gs₁ = .ok p') (h₂ : q.filter c name gs₂ = .ok q') : p'.SameText q' := by
  have ⟨_, connect₁, push₁⟩ := bind_eq_ok_iff.mp h₁
  have ⟨_, connect₂, push₂⟩ := bind_eq_ok_iff.mp h₂
  exact (same.connect connect₁ connect₂).pushFilter alike push₁ push₂

theorem SameText.sortBy (same : p.SameText q) (h₁ : p.sortBy name = .ok p')
    (h₂ : q.sortBy name = .ok q') :
    p'.SameText q' := by
  have ⟨key, read, h₁⟩ := bind_eq_ok_iff.mp h₁
  rw [Plan.sortBy, read] at h₂
  cases h₁
  cases h₂
  exact { same with sorts := congrArg (· ++ [key]) same.sorts }

theorem SameText.slice (same : p.SameText q) {start stop : Int} (h₁ : p.slice start stop = .ok p')
    (h₂ : q.slice start stop = .ok q') : p'.SameText q' := by
  have ⟨window, bounds, h₁⟩ := bind_eq_ok_iff.mp h₁
  rw [Plan.slice, bounds] at h₂
  cases h₁
  cases h₂
  exact { same with window := rfl }

-- A call that extends a plan needs one.
theorem sameText_of_map {plan₁? plan₂? : Option Plan} {f g : Plan → Except Error Plan}
    (same : ∀ p ∈ plan₁?, ∀ q ∈ plan₂?, p.SameText q)
    (extended : ∀ p q, p.SameText q → f p = .ok p' → g q = .ok q' → p'.SameText q')
    (h₁ : plan₁?.map f = some (.ok p')) (h₂ : plan₂?.map g = some (.ok q')) : p'.SameText q' := by
  have ⟨p, held₁, h₁⟩ := Option.map_eq_some_iff.mp h₁
  have ⟨q, held₂, h₂⟩ := Option.map_eq_some_iff.mp h₂
  exact extended p q (same p held₁ q held₂) h₁ h₂

-- What one call preserves.
theorem sameText_of_call? {plan₁? plan₂? : Option Plan}
    (same : ∀ p ∈ plan₁?, ∀ q ∈ plan₂?, p.SameText q) (calls : call₁.SameButValues call₂)
    (h₁ : call? plan₁? call₁ = some (.ok p')) (h₂ : call? plan₂? call₂ = some (.ok q')) :
    p'.SameText q' := by
  cases calls with
  | find alike => exact sameText_of_find alike (Option.some.inj h₁) (Option.some.inj h₂)
  | filter alike => exact sameText_of_map same (fun _ _ same => same.filter alike) h₁ h₂
  | connect => exact sameText_of_map same (fun _ _ same => same.connect) h₁ h₂
  | sortBy => exact sameText_of_map same (fun _ _ same => same.sortBy) h₁ h₂
  | slice => exact sameText_of_map same (fun _ _ same => same.slice) h₁ h₂

theorem build?_cons_eq_ok {plan? : Option Plan} {call : Call} {calls : List Call}
    (h : build? plan? (call :: calls) = some (.ok p')) :
    ∃ p, call? plan? call = some (.ok p) ∧ build? (some p) calls = some (.ok p') := by
  rw [build?] at h
  split at h
  case h_1 p made => exact ⟨p, made, h⟩
  case h_2 failed => exact absurd h (failed p')

-- What all calls together preserve.
theorem sameText_of_build? {plan₁? plan₂? : Option Plan} {calls₁ calls₂ : List Call}
    (same : ∀ p ∈ plan₁?, ∀ q ∈ plan₂?, p.SameText q)
    (calls : List.Forall₂ Call.SameButValues calls₁ calls₂)
    (h₁ : build? plan₁? calls₁ = some (.ok p')) (h₂ : build? plan₂? calls₂ = some (.ok q')) :
    p'.SameText q' := by
  induction calls generalizing plan₁? plan₂? with
  | nil =>
    exact sameText_of_map same
      (fun _ _ same eq₁ eq₂ => Except.ok.inj eq₁ ▸ Except.ok.inj eq₂ ▸ same) h₁ h₂
  | cons call _ ih =>
    have ⟨p, made₁, h₁⟩ := build?_cons_eq_ok h₁
    have ⟨q, made₂, h₂⟩ := build?_cons_eq_ok h₂
    have next := sameText_of_call? same call made₁ made₂
    refine ih (fun p' held₁ q' held₂ => ?_) h₁ h₂
    cases held₁
    cases held₂
    exact next

theorem SameText.text (same : p.SameText q) (c d : String) :
    (Query.find c p).text = (Query.find d q).text := by
  have connective : p.connective = q.connective := congrArg (·.getD .and) same.connective
  have filters : p.filters.map Query.filterText = q.filters.map Query.filterText := by
    rw [← List.forall₂_eq_eq_eq, List.forall₂_map_left_iff, List.forall₂_map_right_iff]
    exact same.filters.imp fun _ _ same => same.filterText
  rw [Query.find, Query.find, Query.findLines, Query.findLines, Query.filtersText,
    Query.filtersText, connective, filters, same.sorts, same.window]

end Plan

namespace Query

-- The attributes that the text accesses.
def attributes (q : Query) : List String :=
  (marked '.' q.text.toList).map .ofList

variable {p q : Plan}

theorem attributes_find {question : Question} (stands : p.StandsFor question)
    (collection : String) :
    (find collection p).attributes = p.filters.map (·.field) ++ p.sorts.map (·.field) := by
  have marks := marks_find (.inr rfl) collection (.of_notMem (by decide))
    (fun f mem => have ⟨isField, i, bound⟩ := stands.named f mem;
      (marks_filterText isField bound).2)
    (fun key mem => (marks_sortText (stands.sorts key mem)).2)
  rw [attributes, marks.marked_eq, List.nil_append, ← List.map_eq_flatMap, ← List.map_eq_flatMap]
  simp [Function.comp_def]

-- The attributes are words as well, so that nothing that is given can become part of the text.
theorem text_same_for_all_values {calls₁ calls₂ : List Plan.Call}
    (same : List.Forall₂ Plan.Call.SameButValues calls₁ calls₂)
    (built₁ : Plan.build? none calls₁ = some (.ok p))
    (built₂ : Plan.build? none calls₂ = some (.ok q))
    (c d : String) :
    (find c p).text = (find d q).text ∧
    (find c p).attributes = p.filters.map (·.field) ++ p.sorts.map (·.field) ∧
    ∀ field ∈ (find c p).attributes, field ≠ "" ∧ ∀ char ∈ field.toList, Name.isWord char := by
  have plans := Plan.sameText_of_build? (by simp) same built₁ built₂
  have stands := Plan.standsFor_ofCalls built₁
  have attributes := attributes_find stands c
  refine ⟨plans.text c d, attributes, fun field mem => ?_⟩
  have isField : Name.IsField field := by
    rw [attributes] at mem
    rcases List.mem_append.mp mem with mem | mem
    · have ⟨f, filter, eq⟩ := List.mem_map.mp mem
      exact eq ▸ (stands.named f filter).1
    · have ⟨key, sort, eq⟩ := List.mem_map.mp mem
      exact eq ▸ stands.sorts key sort
  exact ⟨fun empty => isField.1 (by rw [empty]; rfl), isField.2⟩

-- What is given may look like a part of the text itself.
theorem text_same_for_all_values_of_quotes :
    let calls₁ : List Plan.Call := [
      .find "findBy_aMatching" [.pattern ⟨"x", true⟩], .sortBy "sortByAgeDesc",
      .filter .or "name" [.value (.string "\" || true RETURN doc.key")], .slice 1 3]
    let calls₂ : List Plan.Call := [
      .find "findBy_aMatching" [.pattern ⟨"@name.y", true⟩], .sortBy "sortByAgeDesc",
      .filter .or "name" [.pattern ⟨"^b", false⟩], .slice 1 3]
    ∃ p q, Plan.build? none calls₁ = some (.ok p) ∧ Plan.build? none calls₂ = some (.ok q) ∧
      (find "users" p).text = (find "items" q).text ∧
      (find "users" p).attributes = ["_a", "name", "age"] := by
  intro calls₁ calls₂
  let filters (given₁ : PatternSource) (given₂ : Value) : List Filter :=
    [⟨"_a", .matching, .like, .pattern given₁, "a_0"⟩,
      ⟨"name", .equal, .eq, .value given₂, "name_1"⟩]
  let p : Plan :=
    ⟨filters ⟨"x", true⟩ (.string "\" || true RETURN doc.key"), some .or, [⟨"age", .descending⟩],
    some ⟨1, 2⟩⟩
  let q : Plan :=
    ⟨filters ⟨"@name.y", true⟩ (.string "^b"), some .or, [⟨"age", .descending⟩], some ⟨1, 2⟩⟩
  have built₁ : Plan.build? none calls₁ = some (.ok p) := by rfl
  have built₂ : Plan.build? none calls₂ = some (.ok q) := by rfl
  have same : List.Forall₂ Plan.Call.SameButValues calls₁ calls₂ := by
    refine .cons (.find fun predicate _ => ⟨Iff.rfl, fun _ g₁ g₂ eq₁ eq₂ => ?_⟩) (.cons .sortBy
      (.cons (.filter fun predicate read => ⟨Iff.rfl, fun matched => ?_⟩) (.cons .slice .nil)))
    · cases eq₁
      cases eq₂
      rfl
    · cases read
      exact absurd matched (by decide)
  have ⟨text, attributes, _⟩ := text_same_for_all_values same built₁ built₂ "users" "items"
  exact ⟨p, q, built₁, built₂, text, attributes⟩

end Query
end RecordStore
