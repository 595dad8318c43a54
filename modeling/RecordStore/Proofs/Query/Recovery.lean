import RecordStore.Proofs.NameMap
import RecordStore.Proofs.Query.Layout

-- What was asked for can be read off a query that finds documents: its text and its bindings
-- together are those of one plan only.

namespace RecordStore

theorem intercalate_cons (sep x : List α) (xs : List (List α)) :
    sep.intercalate (x :: xs) = x ++ xs.flatMap (sep ++ ·) := by
  induction xs generalizing x with
  | nil => simp
  | cons y ys ih => simp [List.intercalate_cons_cons, ih]

namespace Operator

theorem text_inj {operator₁ operator₂ : Operator} (h : operator₁.text = operator₂.text) :
    operator₁ = operator₂ := by
  cases operator₁ <;> cases operator₂ <;> first | rfl | simp [text] at h

-- The comparator that an operator stands for. This depends on the side on which the field is.
def comparator (reversed : Bool) : Operator → Comparator
  | eq => .equal
  | ne => .notEqual
  | gt => .greaterThan
  | gte => .greaterThanOrEqual
  | lt => .lesserThan
  | lte => .lesserThanOrEqual
  | isIn => if reversed then .containing else .equal
  | notIn => if reversed then .notContaining else .notEqual
  | like => .matching
  | notLike => .notMatching
  | allIn => .containing
  | noneIn => .notContaining
  | anyIn => .containingOneOf
  | anyNotIn => .notContainingOneOf

theorem comparator_ofComparator (multiple : Bool) (c : Comparator) :
    (ofComparator multiple c).comparator c.isReversed = c := by
  cases c <;> cases multiple <;> rfl

-- Patterns are never looked for in fields.
theorem comparator_of_takesPattern {operator : Operator} (takes : operator.takesPattern)
    (reversed₁ reversed₂ : Bool) :
    operator.comparator reversed₁ = operator.comparator reversed₂ := by
  cases operator <;> cases takes <;> rfl

end Operator

attribute [ext] Filter

-- What the filters of plans have in common.
structure Filter.Resolved (f : Filter) : Prop where
  field_word : Name.IsWord f.field.toList
  bind_word : Name.IsWord f.bind.toList
  comparator_eq : f.operator.comparator f.comparator.isReversed = f.comparator
  takesPattern : ∀ p, f.operand = .pattern p → f.operator.takesPattern

theorem isWord_toDigits (n : Nat) : Name.IsWord (Nat.toDigits 10 n) := by
  intro c mem
  have digit := Nat.isDigit_of_mem_toDigits (by decide) (by decide) mem
  simp [Name.isWord, Char.isAlphanum, digit]

theorem Filter.isWord_bindName {field : String} (isWord : Name.IsWord field.toList) (i : Nat) :
    Name.IsWord (bindName field i).toList := by
  rw [bindName_toList]
  intro c mem
  rcases List.mem_append.mp mem with mem | mem
  · exact isWord c ((List.dropWhile_sublist _).subset mem)
  rcases List.mem_cons.mp mem with rfl | mem
  · rfl
  · rw [toString_toList] at mem
    exact isWord_toDigits i c mem

theorem Condition.filter_resolved {c : Condition} (isField : Name.IsField c.predicate.field)
    (i : Nat) : (c.filter i).Resolved where
  field_word := isField.2
  bind_word := Filter.isWord_bindName isField.2 i
  comparator_eq := Operator.comparator_ofComparator ..
  takesPattern _ eq := Operand.takesPattern_of_ofGiven eq

theorem Plan.StandsFor.resolved {plan : Plan} {question : Question}
    (stands : plan.StandsFor question) : ∀ f ∈ plan.filters, f.Resolved := by
  rw [stands.filters]
  intro f mem
  have ⟨i, lt, eq⟩ := List.mem_mapIdx.mp mem
  exact eq ▸ Condition.filter_resolved (stands.isField _ (List.getElem_mem lt)) i

namespace Filter

def form (f : Filter) : Form :=
  match f.operand with
  | .pattern p => .test (f.operator = .notLike) p.ignoreCase
  | .value _ => if f.comparator.isReversed then .reversed else .plain

theorem filterText_toList (f : Filter) :
    (Query.filterText f).toList =
      f.form.text f.field.toList f.operator.text.toList f.bind.toList := by
  unfold Query.filterText form
  cases f.operand with
  | value v =>
    cases f.comparator.isReversed with
    | false => simp [Form.text_plain]
    | true => simp [Form.text_reversed]
  | pattern p => by_cases negated : f.operator = .notLike <;> simp [Form.text_test, negated]

-- What the text of a filter tells about it.
structure SameText (f g : Filter) : Prop where
  form : f.form = g.form
  field : f.field = g.field
  bind : f.bind = g.bind
  operator : f.form.ShowsOperator → f.operator = g.operator

variable {f g : Filter} {rest₁ rest₂ : List Char}

theorem filterText_inj (resolved₁ : f.Resolved) (resolved₂ : g.Resolved) (stops₁ : Stops rest₁)
    (stops₂ : Stops rest₂)
    (h : (Query.filterText f).toList ++ rest₁ = (Query.filterText g).toList ++ rest₂) :
    f.SameText g ∧ rest₁ = rest₂ := by
  rw [filterText_toList, filterText_toList] at h
  have ⟨form, field, bind, operator, rest⟩ :=
    Form.text_inj resolved₁.field_word resolved₂.field_word resolved₁.bind_word
      resolved₂.bind_word f.operator.isOperatorText g.operator.isOperatorText stops₁ stops₂ h
  refine ⟨⟨form, String.toList_inj.mp field, String.toList_inj.mp bind, fun shows => ?_⟩, rest⟩
  exact Operator.text_inj <| String.toList_inj.mp (operator shows)

theorem form_of_value (operand_eq : f.operand = .value v) :
    f.form = if f.comparator.isReversed then .reversed else .plain := by
  simp [form, operand_eq]

theorem form_of_pattern (operand_eq : f.operand = .pattern p) :
    f.form = .test (f.operator = .notLike) p.ignoreCase := by
  simp [form, operand_eq]

-- Between a field and a value stands the operator, and the comparator decides on which
-- side the field is.
theorem SameText.of_values (same : f.SameText g) (resolved₁ : f.Resolved) (resolved₂ : g.Resolved)
    (operand₁ : f.operand = .value v) (operand₂ : g.operand = .value w) :
    f.operator = g.operator ∧ f.comparator = g.comparator := by
  have form₁ := form_of_value operand₁
  have form₂ := form_of_value operand₂
  have shown : f.form.ShowsOperator := by
    rw [form₁]
    split <;> trivial
  have operator_eq := same.operator shown
  have side : f.comparator.isReversed = g.comparator.isReversed := by
    have form_eq := form₁.symm.trans (same.form.trans form₂)
    generalize f.comparator.isReversed = reversed₁ at form_eq
    generalize g.comparator.isReversed = reversed₂ at form_eq
    cases reversed₁ <;> cases reversed₂ <;> simp at form_eq ⊢
  refine ⟨operator_eq, ?_⟩
  calc f.comparator
    _ = f.operator.comparator f.comparator.isReversed := resolved₁.comparator_eq.symm
    _ = g.operator.comparator g.comparator.isReversed := by rw [operator_eq, side]
    _ = g.comparator := resolved₂.comparator_eq

-- A pattern is tested for being there or not.
theorem SameText.of_patterns (same : f.SameText g) (resolved₁ : f.Resolved) (resolved₂ : g.Resolved)
    (operand₁ : f.operand = .pattern p) (operand₂ : g.operand = .pattern q) :
    f.operator = g.operator ∧ f.comparator = g.comparator ∧ p.ignoreCase = q.ignoreCase := by
  have takes₁ := resolved₁.takesPattern p operand₁
  have takes₂ := resolved₂.takesPattern q operand₂
  have form_eq := (form_of_pattern operand₁).symm.trans (same.form.trans (form_of_pattern operand₂))
  have ⟨negated_eq, ignoreCase_eq⟩ := Form.test.inj form_eq
  have operator_eq : f.operator = g.operator := by
    generalize f.operator = operator₁ at takes₁ negated_eq
    generalize g.operator = operator₂ at takes₂ negated_eq
    cases operator₁ <;> cases takes₁ <;> cases operator₂ <;> cases takes₂ <;>
      simp at negated_eq ⊢
  refine ⟨operator_eq, ?_, ignoreCase_eq⟩
  calc f.comparator
    _ = f.operator.comparator f.comparator.isReversed := resolved₁.comparator_eq.symm
    _ = f.operator.comparator g.comparator.isReversed :=
      Operator.comparator_of_takesPattern takes₁ _ _
    _ = g.operator.comparator g.comparator.isReversed := by rw [operator_eq]
    _ = g.comparator := resolved₂.comparator_eq

-- All that the text does not tell about a filter is the value of its operand.
theorem SameText.eq (same : f.SameText g) (resolved₁ : f.Resolved) (resolved₂ : g.Resolved)
    (value_eq : f.operand.toValue = g.operand.toValue) : f = g := by
  cases operand₁ : f.operand with
  | value v =>
    cases operand₂ : g.operand with
    | value w =>
      have ⟨operator_eq, comparator_eq⟩ := same.of_values resolved₁ resolved₂ operand₁ operand₂
      have operand_eq : f.operand = g.operand := by simp_all [Operand.toValue]
      exact Filter.ext same.field comparator_eq operator_eq operand_eq same.bind
    | pattern q =>
      have form_eq := same.form
      rw [form_of_value operand₁, form_of_pattern operand₂] at form_eq
      split at form_eq <;> cases form_eq
  | pattern p =>
    cases operand₂ : g.operand with
    | value w =>
      have form_eq := same.form
      rw [form_of_pattern operand₁, form_of_value operand₂] at form_eq
      split at form_eq <;> cases form_eq
    | pattern q =>
      have ⟨operator_eq, comparator_eq, ignoreCase_eq⟩ :=
        same.of_patterns resolved₁ resolved₂ operand₁ operand₂
      have operand_eq : f.operand = g.operand := by
        cases p
        cases q
        simp_all [Operand.toValue]
      exact Filter.ext same.field comparator_eq operator_eq operand_eq same.bind

end Filter

namespace Query

variable {p q : Plan} {rest₁ rest₂ : List Char}

theorem filtersText_append {f : Filter} {fs : List Filter} (h : p.filters = f :: fs)
    (rest : List Char) : (filtersText p).toList ++ '\n' :: rest =
      (filterText f).toList ++
        joined (fun f => (filterText f).toList) ' '
          (p.connective.keyword.toList ++ [' ']) fs rest := by
  simp [filtersText, h, intercalate_cons, joined, List.flatMap_map]

theorem keyword_append_inj {c d : Connective}
    (h : c.keyword.toList ++ [' '] ++ rest₁ = d.keyword.toList ++ [' '] ++ rest₂) : c = d := by
  cases c <;> cases d <;> simp [Connective.keyword] at h ⊢

theorem keyword_inj {c d : Connective}
    (h : c.keyword.toList ++ [' '] = d.keyword.toList ++ [' ']) : c = d :=
  keyword_append_inj (congrArg (· ++ []) h)

-- A single filter is not joined to anything, so that its connective is not to be seen.
theorem filtersText_inj (resolved₁ : ∀ f ∈ p.filters, f.Resolved)
    (resolved₂ : ∀ f ∈ q.filters, f.Resolved) (nonempty₁ : p.filters ≠ [])
    (nonempty₂ : q.filters ≠ [])
    (h : (filtersText p).toList ++ '\n' :: rest₁ = (filtersText q).toList ++ '\n' :: rest₂) :
    List.Forall₂ Filter.SameText p.filters q.filters ∧
      (1 < p.filters.length → p.connective = q.connective) ∧ rest₁ = rest₂ := by
  have ⟨f, fs, eq₁⟩ := List.exists_cons_of_ne_nil nonempty₁
  have ⟨g, gs, eq₂⟩ := List.exists_cons_of_ne_nil nonempty₂
  rw [filtersText_append eq₁, filtersText_append eq₂] at h
  rw [eq₁] at resolved₁ ⊢
  rw [eq₂] at resolved₂ ⊢
  have ⟨same, sep_eq, rest_eq⟩ := append_joined_inj (by decide) (by decide)
    (fun xs ys h => by rw [keyword_append_inj h])
    (fun f mem g mem' xs ys stops₁ stops₂ =>
      Filter.filterText_inj (resolved₁ f mem) (resolved₂ g mem') stops₁ stops₂) h
  refine ⟨same, fun many => keyword_inj (sep_eq fun single => ?_), rest_eq⟩
  simp [single] at many

theorem sortText_inj {key₁ key₂ : SortKey} (isField₁ : Name.IsField key₁.field)
    (isField₂ : Name.IsField key₂.field)
    (h : (sortText key₁).toList ++ rest₁ = (sortText key₂).toList ++ rest₂) :
    key₁ = key₂ ∧ rest₁ = rest₂ := by
  simp only [sortText, String.toList_append, List.append_assoc, List.append_cancel_left_eq] at h
  have ⟨field_eq, h⟩ := isField₁.2.append_inj isField₂.2 (by simp [Name.isWord])
    (by simp [Name.isWord]) h
  obtain ⟨field₁, direction₁⟩ := key₁
  obtain ⟨field₂, direction₂⟩ := key₂
  cases String.toList_inj.mp field_eq
  cases direction₁ <;> cases direction₂ <;> simp [Direction.keyword] at h ⊢ <;> exact h

def limitText (w : Window) : List Char :=
  (toString w.offset).toList ++ ',' :: ' ' :: (toString w.count).toList

theorem limitText_inj {w₁ w₂ : Window}
    (h : limitText w₁ ++ '\n' :: rest₁ = limitText w₂ ++ '\n' :: rest₂) : w₁ = w₂ := by
  simp only [limitText, List.append_assoc, List.cons_append] at h
  have ⟨offset_eq, h⟩ := toString_append_inj (by decide) (by decide) h
  have ⟨count_eq, _⟩ := toString_append_inj (by decide) (by decide)
    (List.cons.inj (List.cons.inj h).2).2
  cases w₁
  cases w₂
  simp_all

-- What follows the filters and the sort keys.
def lastLines : Option Window → List Char
  | none => "  RETURN doc".toList
  | some w => "  LIMIT ".toList ++ (limitText w ++ '\n' :: "  RETURN doc".toList)

theorem lastLines_none : lastLines none = "  RETURN doc".toList :=
  rfl

theorem lastLines_some (w : Window) :
    lastLines (some w) = "  LIMIT ".toList ++ (limitText w ++ '\n' :: "  RETURN doc".toList) :=
  rfl

theorem lastLines_inj {window₁ window₂ : Option Window}
    (h : lastLines window₁ = lastLines window₂) : window₁ = window₂ := by
  cases window₁ with
  | none =>
    cases window₂ with
    | none => rfl
    | some w₂ => simp [lastLines_none, lastLines_some] at h
  | some w₁ =>
    cases window₂ with
    | none => simp [lastLines_none, lastLines_some] at h
    | some w₂ => rw [limitText_inj (List.append_cancel_left h)]

-- What follows the filters.
def sortLines (sorts : List SortKey) (rest : List Char) : List Char :=
  match sorts with
  | [] => rest
  | key :: keys =>
    "  SORT ".toList ++ ((sortText key).toList ++
      joined (fun key => (sortText key).toList) ',' [' '] keys rest)

theorem sortLines_nil (rest : List Char) : sortLines [] rest = rest :=
  rfl

theorem sortLines_cons (key : SortKey) (keys : List SortKey) (rest : List Char) :
    sortLines (key :: keys) rest = "  SORT ".toList ++ ((sortText key).toList ++
      joined (fun key => (sortText key).toList) ',' [' '] keys rest) :=
  rfl

theorem sortLines_inj {sorts₁ sorts₂ : List SortKey} {window₁ window₂ : Option Window}
    (isField₁ : ∀ key ∈ sorts₁, Name.IsField key.field)
    (isField₂ : ∀ key ∈ sorts₂, Name.IsField key.field)
    (h : sortLines sorts₁ (lastLines window₁) = sortLines sorts₂ (lastLines window₂)) :
    sorts₁ = sorts₂ ∧ window₁ = window₂ := by
  cases sorts₁ with
  | nil =>
    cases sorts₂ with
    | nil => exact ⟨rfl, lastLines_inj h⟩
    | cons key₂ keys₂ =>
      rw [sortLines_nil, sortLines_cons] at h
      cases window₁ <;> simp [lastLines_none, lastLines_some] at h
  | cons key₁ keys₁ =>
    cases sorts₂ with
    | nil =>
      rw [sortLines_nil, sortLines_cons] at h
      cases window₂ <;> simp [lastLines_none, lastLines_some] at h
    | cons key₂ keys₂ =>
      have ⟨same, _, rest_eq⟩ := append_joined_inj (R := Eq) (by decide) (by decide)
        (fun _ _ _ => rfl)
        (fun key mem key' mem' xs ys _ _ => sortText_inj (isField₁ key mem) (isField₂ key' mem'))
        (List.append_cancel_left h)
      exact ⟨List.forall₂_eq_eq_eq ▸ same, lastLines_inj rest_eq⟩

theorem find_text_toList (collection : String) (p : Plan) :
    (find collection p).text.toList = "FOR doc IN @@collection\n  FILTER ".toList ++
      ((filtersText p).toList ++ '\n' :: sortLines p.sorts (lastLines p.window)) := by
  simp only [find, findLines, String.toList_intercalate, List.cons_append, List.nil_append,
    List.map_cons, intercalate_cons]
  cases p.sorts with
  | nil =>
    rw [sortLines_nil]
    cases p.window with
    | none => simp [lastLines_none]
    | some w => simp [lastLines_some, limitText]
  | cons key keys =>
    rw [sortLines_cons]
    cases p.window with
    | none => simp [lastLines_none, intercalate_cons, joined, List.flatMap_map]
    | some w => simp [lastLines_some, limitText, intercalate_cons, joined, List.flatMap_map]

theorem get?_bindings_collection (collection : String) (p : Plan) :
    (find collection p).bindings.get? collectionBinding = some (.string collection) :=
  NameMap.get?_insert_self ..

-- No word is the name under which the collection is bound.
theorem bind_ne_collection {f : Filter} (resolved : f.Resolved) : f.bind ≠ collectionBinding := by
  intro eq
  have isWord := resolved.bind_word '@'
  rw [eq] at isWord
  exact absurd (isWord (by decide)) (by decide)

-- The names under which operands are bound differ from each other and from that of the collection.
theorem get?_bindings_operand {question : Question} (stands : p.StandsFor question)
    (collection : String) {f : Filter} (mem : f ∈ p.filters) :
    (find collection p).bindings.get? f.bind = some f.operand.toValue := by
  rw [find, NameMap.get?_insert_of_ne (bind_ne_collection (stands.resolved f mem))]
  refine NameMap.get?_ofList_of_mem ?_ (List.mem_map.mpr ⟨f, mem, rfl⟩)
  rw [List.map_map]
  exact stands.nodup_binds

-- Equal queries ask for the same, and so do the plans that they are made of. Where there are no two
-- filters, there is nothing to be joined by a connective.
theorem find_inj {calls₁ calls₂ : List Plan.Call} {collection₁ collection₂ : String}
    (built₁ : Plan.build? none calls₁ = some (.ok p))
    (built₂ : Plan.build? none calls₂ = some (.ok q))
    (text_eq : (find collection₁ p).text = (find collection₂ q).text)
    (bindings_eq : (find collection₁ p).bindings = (find collection₂ q).bindings) :
    collection₁ = collection₂ ∧ p.filters = q.filters ∧ p.sorts = q.sorts ∧
      p.window = q.window ∧ (1 < p.filters.length → p.connective = q.connective) := by
  have stands₁ := Plan.standsFor_ofCalls built₁
  have stands₂ := Plan.standsFor_ofCalls built₂
  have chars := congrArg String.toList text_eq
  rw [find_text_toList, find_text_toList, List.append_cancel_left_eq] at chars
  have ⟨same, connective_eq, lines⟩ := filtersText_inj stands₁.resolved stands₂.resolved
    (by simp [stands₁.filters, stands₁.nonempty])
      (by simp [stands₂.filters, stands₂.nonempty]) chars
  have ⟨sorts_eq, window_eq⟩ := sortLines_inj stands₁.sorts stands₂.sorts lines
  have collection_eq : collection₁ = collection₂ := by
    have held := get?_bindings_collection collection₁ p
    rw [bindings_eq, get?_bindings_collection] at held
    exact (Value.string.inj (Option.some.inj held)).symm
  have filters_eq : p.filters = q.filters := by
    rw [← List.forall₂_eq_eq_eq]
    refine List.forall₂_iff_get.mpr ⟨same.length_eq, fun i lt₁ lt₂ => ?_⟩
    have same_i := same.get lt₁ lt₂
    have mem₁ := List.get_mem p.filters ⟨i, lt₁⟩
    have mem₂ := List.get_mem q.filters ⟨i, lt₂⟩
    refine same_i.eq (stands₁.resolved _ mem₁) (stands₂.resolved _ mem₂) ?_
    have held := get?_bindings_operand stands₁ collection₁ mem₁
    rw [bindings_eq, same_i.bind, get?_bindings_operand stands₂ collection₂ mem₂] at held
    exact (Option.some.inj held).symm
  exact ⟨collection_eq, filters_eq, sorts_eq, window_eq, connective_eq⟩

-- Single filters are alike whatever their connective is, which is why it is not recovered.
theorem find_inj_of_single :
    let calls₁ : List Plan.Call :=
      [.find "findByNameMatching" [.pattern ⟨"^a", true⟩], .sortBy "sortByAgeDesc", .slice 2 5]
    let calls₂ : List Plan.Call :=
      [.find "findByNameMatching" [.pattern ⟨"^a", true⟩], .slice 0 1, .connect .or,
        .sortBy "sortByAgeDesc", .slice 2 5]
    ∃ p q, Plan.build? none calls₁ = some (.ok p) ∧ Plan.build? none calls₂ = some (.ok q) ∧
      p.connective ≠ q.connective ∧ p.filters = q.filters ∧ p.sorts = q.sorts ∧
      p.window = q.window := by
  intro calls₁ calls₂
  let f : Filter := ⟨"name", .matching, .like, .pattern ⟨"^a", true⟩, "name_0"⟩
  let p : Plan := ⟨[f], none, [⟨"age", .descending⟩], some ⟨2, 3⟩⟩
  let q : Plan := ⟨[f], some .or, [⟨"age", .descending⟩], some ⟨2, 3⟩⟩
  have built₁ : Plan.build? none calls₁ = some (.ok p) := by rfl
  have built₂ : Plan.build? none calls₂ = some (.ok q) := by rfl
  have text_eq : (find "a" p).text = (find "a" q).text := by decide +kernel
  have bindings_eq : (find "a" p).bindings = (find "a" q).bindings := by rfl
  have ⟨_, filters_eq, sorts_eq, window_eq, _⟩ := find_inj built₁ built₂ text_eq bindings_eq
  exact ⟨p, q, built₁, built₂, by decide, filters_eq, sorts_eq, window_eq⟩

end Query
end RecordStore
