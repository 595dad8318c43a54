import RecordStore.Proofs.Query.Marking
import RecordStore.Query.Request

-- The parameters of queries: a text refers to exactly those that something is bound to, and each
-- filter to one of its own.

namespace RecordStore

namespace Filter

variable {field : String} {i : Nat}

-- Underscores in front of a field are left out, so that there is none unless there is nothing else.
theorem head?_bindName (field : String) (i : Nat) :
    (bindName field i).toList.head? = some '_' ↔ ∀ c ∈ field.toList, c = '_' := by
  rw [bindName_toList]
  cases rest : field.toList.dropWhile (· == '_') with
  | nil => simpa using List.dropWhile_eq_nil_iff.mp rest
  | cons c cs =>
    have ne : c ≠ '_' := by
      have := List.head?_dropWhile_not (· == '_') field.toList
      simpa [rest] using this
    have mem : c ∈ field.toList := (List.dropWhile_sublist _).subset (rest ▸ List.mem_cons_self)
    simp only [List.cons_append, List.head?_cons, Option.some.injEq]
    exact iff_of_false ne fun underscores => ne (underscores c mem)

end Filter

namespace Query

-- The names of the parameters that the text refers to.
def parameters (q : Query) : List String :=
  (marked '@' q.text.toList).map .ofList

variable {plan : Plan} {question : Question}

theorem marks_collection : Marks '@' "FOR doc IN @@collection".toList [collectionBinding.toList] :=
  ⟨by decide, by decide⟩

theorem parameters_find (stands : plan.StandsFor question) (collection : String) :
    (find collection plan).parameters = collectionBinding :: plan.filters.map (·.bind) := by
  have keys : ∀ key ∈ plan.sorts, Marks '@' (sortText key).toList ((fun _ => []) key) :=
    fun key mem => (marks_sortText (stands.sorts key mem)).1
  have marks := marks_find (.inl rfl) collection marks_collection
    (fun f mem => have ⟨isField, i, bound⟩ := stands.named f mem;
      (marks_filterText isField bound).1) keys
  rw [parameters, marks.marked_eq]
  have no_words : plan.sorts.flatMap (fun _ => ([] : List (List Char))) = [] := by simp
  rw [no_words, List.append_nil, ← List.map_eq_flatMap]
  simp

theorem marks_boundSortText (key : SortKey) (i : Nat) :
    Marks '@' (boundSortText key i).toList [(sortBinding i).toList] := by
  have isWord : Name.IsWord (sortBinding i).toList := by
    rw [sortBinding, String.toList_append, toString_toList]
    exact List.forall_mem_append.mpr ⟨List.all_eq_true.mp rfl, isWord_toDigits i⟩
  have text : (boundSortText key i).toList =
      "doc[".toList ++ ('@' :: (sortBinding i).toList ++
        ("] ".toList ++ key.direction.keyword.toList)) := by
    simp [boundSortText]
  rw [text]
  refine .between (by decide) (by decide) ?_ (by simp [Name.isWord]) isWord (by simp [sortBinding])
  cases key.direction <;> decide

theorem all_text_toList (collection : String) (key : SortKey) (keys : List SortKey) :
    (all collection (key :: keys)).text.toList = "FOR doc IN @@collection".toList ++
      (" SORT ".toList ++ (", ".toList.intercalate
        ((key :: keys).zipIdx.map fun entry => (boundSortText entry.1 entry.2).toList) ++
          " RETURN doc".toList)) := by
  have text : (all collection (key :: keys)).text = "FOR doc IN @@collection" ++
      (" SORT " ++ ", ".intercalate
        ((key :: keys).zipIdx.map fun entry => boundSortText entry.1 entry.2)) ++
        " RETURN doc" := rfl
  rw [text, String.toList_append, String.toList_append, String.toList_append,
    String.toList_intercalate, List.map_map, List.append_assoc, List.append_assoc]
  rfl

theorem parameters_all (collection : String) (sorts : List SortKey) :
    (all collection sorts).parameters =
      collectionBinding :: sorts.zipIdx.map (sortBinding ·.2) := by
  cases sorts with
  | nil =>
    have marks : marked '@' "FOR doc IN @@collection RETURN doc".toList =
        [collectionBinding.toList] := by decide
    exact congrArg (List.map String.ofList) marks
  | cons key keys =>
    have listed : Marks '@' (", ".toList.intercalate
        ((key :: keys).zipIdx.map fun entry => (boundSortText entry.1 entry.2).toList))
        ((key :: keys).zipIdx.flatMap fun entry => [(sortBinding entry.2).toList]) :=
      .intercalate (by decide) (fun _ => by simp [Name.isWord]) fun entry _ =>
        marks_boundSortText entry.1 entry.2
    have marks_return : Marks '@' " RETURN doc".toList [] := .of_notMem (by decide)
    have no_at : '@' ∉ " SORT ".toList := by decide
    have sort := (listed.append marks_return (by simp [Name.isWord])).prepend no_at
    have marks := marks_collection.append sort (by simp [Name.isWord])
    rw [parameters, all_text_toList, marks.marked_eq, List.append_nil, ← List.map_eq_flatMap]
    simp

theorem parameters_of_text {q : Query} (text : String) (names : List String)
    (text_eq : q.text = text)
    (h : marked '@' text.toList = names.map String.toList) : q.parameters = names := by
  simp [parameters, text_eq, h]

theorem names_find (collection : String) (plan : Plan) (name : String) :
    name ∈ (find collection plan).bindings.names ↔
    name ∈ collectionBinding :: plan.filters.map (·.bind) := by
  rw [find, NameMap.mem_names_iff, NameMap.contains_insert, ← NameMap.mem_names_iff,
    NameMap.mem_names_ofList, List.map_map, List.mem_cons]
  rfl

theorem names_all (collection : String) (sorts : List SortKey) (name : String) :
    name ∈ (all collection sorts).bindings.names ↔
      name ∈ collectionBinding :: sorts.zipIdx.map (sortBinding ·.2) := by
  have bindings : (all collection sorts).bindings =
    .ofList ((collectionBinding, .string collection) ::
      sorts.zipIdx.map fun entry => (sortBinding entry.2, .string entry.1.field)) := rfl
  rw [bindings, NameMap.mem_names_ofList, List.map_cons, List.map_map]
  rfl

-- Beside the collection, there is one binding for each filter.
theorem size_bindings_find (stands : plan.StandsFor question) (collection : String) :
    (find collection plan).bindings.size = plan.filters.length + 1 := by
  have distinct : (collectionBinding :: plan.filters.map (·.bind)).Nodup := by
    refine List.nodup_cons.mpr ⟨fun mem => ?_, stands.nodup_binds⟩
    have ⟨f, filter, eq⟩ := List.mem_map.mp mem
    exact bind_ne_collection (stands.resolved f filter) eq
  rw [NameMap.size_eq_length distinct fun name => (names_find collection plan name).symm]
  simp

theorem query?_find_eq_ok {calls : List Plan.Call} {collection : String} {q : Query}
    (h : Request.query? collection (.find calls) = some (.ok q)) :
    ∃ plan, Plan.build? none calls = some (.ok plan) ∧ q = find collection plan := by
  have ⟨result, built, h⟩ := Option.map_eq_some_iff.mp h
  cases result with
  | error e => cases h
  | ok plan => exact ⟨plan, built, (Except.ok.inj h).symm⟩

-- The text of a query refers to all that is bound and to nothing else.
theorem mem_parameters_iff {request : Request} {collection : String} {q : Query}
    (h : request.query? collection = some (.ok q)) (name : String) :
    name ∈ q.parameters ↔ name ∈ q.bindings.names := by
  cases request with
  | find calls =>
    obtain ⟨plan, built, rfl⟩ := query?_find_eq_ok h
    rw [parameters_find (Plan.standsFor_ofCalls built), names_find]
  | all sorts =>
    cases h
    rw [parameters_all, names_all]
  | document id =>
    cases h
    rw [parameters_of_text "RETURN IS_SAME_COLLECTION(@collection, @id) && DOCUMENT(@id)"
      ["collection", "id", "id"] rfl (by decide +kernel), document, NameMap.mem_names_ofList]
    simp
  | insert fields =>
    cases h
    rw [parameters_of_text "INSERT @document INTO @@collection RETURN NEW"
      ["document", collectionBinding] rfl
      (by decide), insert, NameMap.mem_names_ofList]
    simp [or_comm]
  | update key patch =>
    cases h
    rw [parameters_of_text "UPDATE @key WITH @patch IN @@collection"
      ["key", "patch", collectionBinding] rfl
      (by decide), update, NameMap.mem_names_ofList]
    simp [or_comm, or_left_comm]
  | remove key =>
    cases h
    rw [parameters_of_text "REMOVE @key IN @@collection" ["key", collectionBinding] rfl (by decide),
      remove, NameMap.mem_names_ofList]
    simp [or_comm]

-- Whatever is asked for, its text refers to all that is bound and to nothing else. Each filter of a
-- plan has a parameter of its own, which is a word and to which its operand is bound.
theorem parameters_bound {request : Request} {collection : String} {q : Query}
    (h : request.query? collection = some (.ok q)) :
    (∀ name, name ∈ q.parameters ↔ name ∈ q.bindings.names) ∧
    ∀ plan, q.statement = .find plan →
      (plan.filters.map (·.bind)).Nodup ∧
      q.bindings.size = plan.filters.length + 1 ∧
      q.bindings.get? "@collection" = some (.string collection) ∧
      ∀ f ∈ plan.filters,
        f.bind ≠ "" ∧ (∀ c ∈ f.bind.toList, Name.isWord c) ∧ f.bind ≠ "@collection" ∧
        q.bindings.get? f.bind = some f.operand.toValue ∧
        (f.bind.toList.head? = some '_' ↔ ∀ c ∈ f.field.toList, c = '_') := by
  refine ⟨mem_parameters_iff h, fun plan statement => ?_⟩
  cases request with
  | find calls =>
    obtain ⟨plan', built, rfl⟩ := query?_find_eq_ok h
    cases statement
    have stands := Plan.standsFor_ofCalls built
    refine ⟨stands.nodup_binds, size_bindings_find stands collection,
      get?_bindings_collection collection plan, fun f mem => ?_⟩
    have resolved := stands.resolved f mem
    have ⟨_, i, bound⟩ := stands.named f mem
    have nonempty : f.bind ≠ "" := fun eq => Filter.bindName_ne f.field i (by rw [← bound, eq]; rfl)
    refine ⟨nonempty, resolved.bind_word, bind_ne_collection resolved,
      get?_bindings_operand stands collection mem, ?_⟩
    rw [bound]
    exact Filter.head?_bindName f.field i
  | all | document | insert | update | remove => cases h; cases statement

-- Fields may end in digits themselves, and may be made of nothing but underscores.
theorem parameters_bound_of_digits :
    let calls : List Plan.Call := [
      .find "findBy_a_1" [.value .null],
      .filter .or "aMatching" [.pattern ⟨"^b", true⟩],
      .filter .or "__" [.value (.string "@b"), .value .null]]
    ∃ q plan, Request.query? "a" (.find calls) = some (.ok q) ∧ q.statement = .find plan ∧
      plan.filters.map (·.bind) = ["a_1_0", "a_1", "_2"] ∧
      (∀ name, name ∈ q.parameters ↔ name ∈ q.bindings.names) ∧ q.bindings.size = 4 := by
  intro calls
  let plan : Plan := ⟨[
    ⟨"_a_1", .equal, .eq, .value .null, "a_1_0"⟩,
    ⟨"a", .matching, .like, .pattern ⟨"^b", true⟩, "a_1"⟩,
    ⟨"__", .equal, .isIn, .value (.array [.string "@b", .null]), "_2"⟩], some .or, [], none⟩
  have built : Plan.build? none calls = some (.ok plan) := by rfl
  have asked : Request.query? "a" (.find calls) = some (.ok (find "a" plan)) := by
    rw [Request.query?, built]
    rfl
  have ⟨closed, operands⟩ := parameters_bound asked
  have ⟨_, size, _⟩ := operands plan rfl
  exact ⟨find "a" plan, plan, asked, rfl, rfl, closed, size⟩

end Query
end RecordStore
