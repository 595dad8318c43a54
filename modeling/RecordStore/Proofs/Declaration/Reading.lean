import RecordStore.Proofs.Declaration.Items
import RecordStore.Proofs.NameMap

-- What is made of the items of attributes: they are read from left to right, no matter to which
-- attributes they belong, and the first of them that is not well-formed decides about the error.

namespace RecordStore

-- The items of an attribute, if it is about the collection.
def Attribute.items : Attribute → List Meta
  | collection items => items
  | _ => []

namespace Declaration

open Meta

-- Of what is given more than once, the last counts.
structure Describes (items : List Meta) (index : Index) : Prop where
  type : index.type = (given string? "kind" items).getLast?.getD "persistent"
  fields : ∃ text, (given string? "fields" items).getLast? = some text ∧
    ListsNames text index.fields
  fields_ne : index.fields ≠ []
  named : "" ∉ index.fields
  option : ∀ option ∈ optionNames,
    index.options.get? option = (given flag? option items).getLast?.map .bool
  other : ∀ option, option ∉ optionNames → index.options.get? option = none

-- The items of indexes describe one index each, in their order.
structure Declares (ident : String) (items : List Meta) (d : Declaration) : Prop where
  name : d.name = (given string? "name" items).getLast?.getD (snakeCase ident)
  kind : d.kind = .edge ↔ ∃ item ∈ items, item.path = "edge"
  indexes : List.Forall₂ Describes (given nested "index" items) d.indexes

-- What is known of an index when these items have been read.
structure IndexDraft.Knows (items : List Meta) (draft : IndexDraft) : Prop where
  type : draft.type = (given string? "kind" items).getLast?
  fields : draft.fields = (given string? "fields" items).getLast?.map fieldNames
  named : ∀ names, draft.fields = some names → "" ∉ names
  option : ∀ option ∈ optionNames,
    draft.options.get? option = (given flag? option items).getLast?.map .bool
  other : ∀ option, option ∉ optionNames → draft.options.get? option = none

-- What is known of a collection when these items have been read.
structure Draft.Knows (items : List Meta) (draft : Draft) : Prop where
  name : draft.name = (given string? "name" items).getLast?
  edge : draft.edge ↔ ∃ item ∈ items, item.path = "edge"
  indexes : List.Forall₂ Describes (given nested "index" items) draft.indexes

variable {item : Meta} {items : List Meta} {e : DeclarationError} {text path : String}

namespace IndexDraft

variable {draft : IndexDraft}

theorem Knows.setOption (knows : draft.Knows items) (mem : item.path ∈ optionNames)
    (flag : item.flag? = some b) :
    (draft.setOption item.path b).Knows (items ++ [item]) := by
  have ⟨not_kind, not_fields⟩ := ne_of_mem_optionNames mem
  refine ⟨?_, ?_, knows.named, fun option mem => ?_, fun option other => ?_⟩
  · rw [given_concat_of_ne not_kind]
    exact knows.type
  · rw [given_concat_of_ne not_fields]
    exact knows.fields
  · by_cases same : item.path = option
    case pos =>
      rw [getLast?_given_concat same flag]
      simp [IndexDraft.setOption, same]
    case neg =>
      rw [given_concat_of_ne same, ← knows.option option mem, IndexDraft.setOption,
        NameMap.get?_insert, if_neg (Ne.symm same)]
  · have ne : option ≠ item.path := fun same => other (same ▸ mem)
    rw [IndexDraft.setOption, NameMap.get?_insert, if_neg ne]
    exact knows.other option other

theorem read_option (mem : item.path ∈ optionNames) (flag : item.flag? = some b) :
    draft.read item = .ok (draft.setOption item.path b) := by
  simp only [optionNames, List.mem_cons, List.not_mem_nil, or_false] at mem
  obtain ⟨eq, rfl⟩ | eq :=
    flag?_eq_some_iff.mp flag <;> obtain path | path := mem <;> rw [eq, path] <;> rfl

theorem Knows.setType (knows : draft.Knows items) (path : item.path = "kind")
    (string : item.string? = some text) :
    Knows (items ++ [item]) { draft with type := some text } := by
  refine ⟨(getLast?_given_concat path string).symm, ?_, knows.named, fun option mem => ?_,
    knows.other⟩
  · rw [given_concat_of_ne (by simp [path])]
    exact knows.fields
  · rw [given_concat_of_ne (path ▸ (ne_of_mem_optionNames mem).1.symm)]
    exact knows.option option mem

theorem Knows.setFields (knows : draft.Knows items) (path : item.path = "fields")
    (string : item.string? = some text)
    (named : "" ∉ fieldNames text) :
    Knows (items ++ [item]) { draft with fields := some (fieldNames text) } := by
  refine ⟨?_, ?_, fun names same => ?_, fun option mem => ?_, knows.other⟩
  · rw [given_concat_of_ne (by simp [path])]
    exact knows.type
  · rw [getLast?_given_concat path string, Option.map_some]
  · cases same
    exact named
  · rw [given_concat_of_ne (path ▸ (ne_of_mem_optionNames mem).2.symm)]
    exact knows.option option mem

theorem read_fields (text : String) (draft : IndexDraft) :
    draft.read (.mk "fields" none (some (.string text))) =
      if "" ∈ fieldNames text then .error .emptyFieldName
      else .ok { draft with fields := some (fieldNames text) } := by
  have any_iff : (fieldNames text).any String.isEmpty ↔ "" ∈ fieldNames text := by simp
  simp only [IndexDraft.read, Meta.path, string?, any_iff]

-- A well-formed item is added to what is known.
theorem Knows.read (knows : draft.Knows items) (formed : item.IsIndexItem) :
    ∃ draft', draft.read item = .ok draft' ∧ draft'.Knows (items ++ [item]) := by
  cases formed with
  | kind type => exact ⟨_, rfl, knows.setType rfl rfl⟩
  | @fields text names lists named =>
    rw [listsNames_iff.mp lists] at named
    exact ⟨_, by rw [read_fields, if_neg named], knows.setFields rfl rfl named⟩
  | flag mem => exact ⟨_, read_option mem rfl, knows.setOption mem rfl⟩
  | setting mem b => exact ⟨_, read_option mem rfl, knows.setOption mem rfl⟩

theorem read_eq_error (fault : item.IndexFault e) (draft : IndexDraft) :
    draft.read item = .error e := by
  cases fault with
  | unknown foreign =>
    simp only [optionNames, List.mem_cons, List.not_mem_nil, or_false, not_or] at foreign
    unfold IndexDraft.read
    split <;> simp_all
  | unnamed lists unnamed =>
    rw [listsNames_iff.mp lists] at unnamed
    rw [read_fields, if_pos unnamed]
  | noText path noText =>
    obtain path | path := path <;> simp only [IndexDraft.read, path, noText]
  | noFlag path noFlag =>
    simp only [optionNames, List.mem_cons, List.not_mem_nil, or_false] at path
    unfold IndexDraft.read
    obtain path | path := path <;> simp only [path]
    all_goals
      split
      case h_1 | h_2 => cases noFlag
      case h_3 => rfl

-- So well-formed items are all read.
theorem exists_foldlM (formed : ∀ item ∈ items, item.IsIndexItem) :
    ∃ draft, items.foldlM IndexDraft.read ⟨none, none, ∅⟩ = .ok draft ∧ draft.Knows items :=
  have nothing : Knows [] ⟨none, none, ∅⟩ :=
    ⟨rfl, rfl, fun _ => nofun, fun _ _ => NameMap.get?_empty _, fun _ _ => NameMap.get?_empty _⟩
  exists_foldlM_eq_ok Knows.read nothing formed

end IndexDraft

theorem exists_text (formed : ∀ item ∈ items, item.IsIndexItem)
    (fields : ∃ item ∈ items, item.path = "fields") :
    ∃ text, (given string? "fields" items).getLast? = some text := by
  obtain ⟨item, mem, path⟩ := fields
  have string : ∃ text, item.string? = some text := by
    cases formed item mem with
    | kind type => exact ⟨type, rfl⟩
    | @fields text => exact ⟨text, rfl⟩
    | flag isOption | setting isOption => exact absurd path (ne_of_mem_optionNames isOption).2
  obtain ⟨text, string⟩ := string
  have some_given : given string? "fields" items ≠ [] :=
    List.ne_nil_of_mem (mem_given_iff.mpr ⟨item, mem, path, string⟩)
  exact ⟨_, List.getLast?_eq_some_getLast some_given⟩

theorem readIndex_eq (nested : item.nested = some items) (ne : items ≠ []) :
    readIndex item = (items.foldlM IndexDraft.read ⟨none, none, ∅⟩ >>= fun draft =>
      draft.toIndex >>= fun index =>
        if item.value.isSome then .error .malformed else .ok index) := by
  unfold readIndex
  rw [nested]
  cases items with
  | nil => exact absurd rfl ne
  | cons => rfl

-- The index of which these items are known.
theorem IndexDraft.Knows.exists_toIndex {draft : IndexDraft} (knows : draft.Knows items)
    (formed : ∀ item ∈ items, item.IsIndexItem) (fields : ∃ item ∈ items, item.path = "fields") :
    ∃ index, draft.toIndex = .ok index ∧ Describes items index := by
  obtain ⟨text, given⟩ := exists_text formed fields
  have known : draft.fields = some (fieldNames text) := by rw [knows.fields, given, Option.map_some]
  refine ⟨_, by rw [IndexDraft.toIndex, known], ?_⟩
  exact {
    type := by rw [knows.type]
    fields := ⟨text, given, listsNames_iff.mpr rfl⟩
    fields_ne := fieldNames_ne_nil text
    named := knows.named _ known
    option := knows.option
    other := knows.other }

theorem exists_readIndex (formed : ∀ item ∈ items, item.IsIndexItem)
    (fields : ∃ item ∈ items, item.path = "fields") :
    ∃ index, readIndex (.mk "index" (some items) none) = .ok index ∧ Describes items index := by
  obtain ⟨draft, folded, knows⟩ := IndexDraft.exists_foldlM formed
  obtain ⟨index, made, describes⟩ := knows.exists_toIndex formed fields
  have ne : items ≠ [] := List.ne_nil_of_mem fields.choose_spec.1
  refine ⟨index, ?_, describes⟩
  rw [readIndex_eq rfl ne, folded]
  simp [made, bind, Except.bind, Meta.value]

theorem readIndex_eq_error (path : item.path = "index") (fault : item.Fault e) :
    readIndex item = .error e := by
  cases fault with
  | unknown foreign => simp [path] at foreign
  | unnamed => exact absurd path (by decide)
  | noText path' | notBare path' => exact absurd (path'.symm.trans path) (by decide)
  | noItems _ noItems => obtain nested | nested := noItems <;> simp only [readIndex, nested]
  | inner _ nested formed fault =>
    obtain ⟨draft, folded, _⟩ := IndexDraft.exists_foldlM formed
    rw [readIndex_eq nested (by simp), List.foldlM_append, folded]
    simp [IndexDraft.read_eq_error fault, bind, Except.bind]
  | @noFields _ items _ nested ne formed noFields =>
    obtain ⟨draft, folded, knows⟩ := IndexDraft.exists_foldlM formed
    have none_given : given string? "fields" items = [] := by
      rw [List.eq_nil_iff_forall_not_mem]
      intro text mem
      obtain ⟨item, mem, path, _⟩ := mem_given_iff.mp mem
      exact noFields item mem path
    have unknown : draft.fields = none := by rw [knows.fields, none_given]; rfl
    rw [readIndex_eq nested ne, folded]
    simp [IndexDraft.toIndex, unknown, bind, Except.bind]
  | followed _ nested formed fields followed =>
    obtain ⟨draft, folded, knows⟩ := IndexDraft.exists_foldlM formed
    obtain ⟨index, made, _⟩ := knows.exists_toIndex formed fields
    have ne := List.ne_nil_of_mem fields.choose_spec.1
    rw [readIndex_eq nested ne, folded]
    simp [made, followed, bind, Except.bind]

namespace Draft

variable {draft : Draft}

theorem read_index (path : item.path = "index") (draft : Draft) : draft.read item =
    (readIndex item >>= fun index => .ok { draft with indexes := draft.indexes ++ [index] }) := by
  simp only [Draft.read, path]

theorem read_name (text : String) (draft : Draft) :
    draft.read (.mk "name" none (some (.string text))) =
    if text = "" then .error .emptyName else .ok { draft with name := some text } := by
  simp [Draft.read, Meta.path, string?]

theorem Knows.setName (knows : draft.Knows items) (path : item.path = "name")
    (string : item.string? = some text) :
    Knows (items ++ [item]) { draft with name := some text } := by
  refine ⟨(getLast?_given_concat path string).symm, ?_, ?_⟩
  · rw [exists_path_concat_iff, path]
    simpa using knows.edge
  · rw [given_concat_of_ne (by simp [path])]
    exact knows.indexes

theorem Knows.setEdge (knows : draft.Knows items) (path : item.path = "edge") :
    Knows (items ++ [item]) { draft with edge := true } := by
  refine ⟨?_, ?_, ?_⟩
  · rw [given_concat_of_ne (by simp [path])]
    exact knows.name
  · simp [path]
  · rw [given_concat_of_ne (by simp [path])]
    exact knows.indexes

theorem Knows.addIndex {inner : List Meta} {index : Index} (knows : draft.Knows items)
    (path : item.path = "index")
    (nested : item.nested = some inner) (describes : Describes inner index) :
    Knows (items ++ [item]) { draft with indexes := draft.indexes ++ [index] } := by
  refine ⟨?_, ?_, ?_⟩
  · rw [given_concat_of_ne (by simp [path])]
    exact knows.name
  · rw [exists_path_concat_iff, path]
    simpa using knows.edge
  · rw [given_concat path nested]
    exact List.rel_append knows.indexes (.cons describes .nil)

theorem Knows.read (knows : draft.Knows items) (formed : item.IsItem) :
    ∃ draft', draft.read item = .ok draft' ∧ draft'.Knows (items ++ [item]) := by
  cases formed with
  | @name text named => exact ⟨_, by rw [read_name, if_neg named], knows.setName rfl rfl⟩
  | edge => exact ⟨_, rfl, knows.setEdge rfl⟩
  | index formed fields =>
    obtain ⟨index, read, describes⟩ := exists_readIndex formed fields
    exact ⟨_, by rw [read_index rfl, read]; rfl, knows.addIndex rfl rfl describes⟩

theorem read_eq_error (fault : item.Fault e) (draft : Draft) : draft.read item = .error e := by
  by_cases path : item.path = "index"
  case pos =>
    rw [read_index path, readIndex_eq_error path fault]
    rfl
  case neg =>
    cases fault with
    | unknown foreign =>
      simp only [List.mem_cons, List.not_mem_nil, or_false, not_or] at foreign
      unfold Draft.read
      split <;> simp_all
    | unnamed => rw [read_name, if_pos rfl]
    | noText path noText => simp only [Draft.read, path, noText]
    | notBare path notBare => simp only [Draft.read, path, if_neg notBare]
    | noItems path' | inner path' | noFields path' | followed path' => exact absurd path' path

-- What is known of a collection is what is declared of it.
theorem Knows.declares (knows : draft.Knows items) (ident : String) :
    Declares ident items (draft.toDeclaration ident) where
  name := by rw [← knows.name]; rfl
  kind := by rw [← knows.edge, Draft.toDeclaration]; cases draft.edge <;> simp
  indexes := knows.indexes

theorem exists_foldlM (formed : ∀ item ∈ items, item.IsItem) :
    ∃ draft, items.foldlM Draft.read ⟨none, false, []⟩ = .ok draft ∧ draft.Knows items :=
  have nothing : Draft.Knows [] ⟨none, false, []⟩ := ⟨rfl, by simp, .nil⟩
  exists_foldlM_eq_ok Knows.read nothing formed

theorem foldlM_eq_error {before after : List Meta} {bad : Meta}
    (formed : ∀ item ∈ before, item.IsItem)
    (fault : bad.Fault e) :
    (before ++ bad :: after).foldlM Draft.read ⟨none, false, []⟩ = .error e := by
  obtain ⟨draft, folded, _⟩ := exists_foldlM formed
  rw [List.foldlM_append, folded]
  simp [read_eq_error fault, bind, Except.bind]

-- Attributes are read as the list of all their items.
theorem foldlM_readAttribute_eq {attributes : List Attribute} (noBare : .bare ∉ attributes)
    (draft : Draft) :
    attributes.foldlM Draft.readAttribute draft =
      (attributes.flatMap Attribute.items).foldlM Draft.read draft := by
  induction attributes generalizing draft with
  | nil => rfl
  | cons a attributes ih =>
    rw [List.mem_cons, not_or] at noBare
    rw [List.foldlM_cons, List.flatMap_cons, List.foldlM_append]
    simp only [ih noBare.2]
    cases a with
    | other => rfl
    | bare => exact absurd rfl noBare.1
    | collection items => rfl

end Draft

variable {ident : String} {attributes : List Attribute}

theorem ofAttributes_eq (noBare : .bare ∉ attributes) : ofAttributes ident attributes =
    ((attributes.flatMap Attribute.items).foldlM Draft.read ⟨none, false, []⟩).map
      (·.toDeclaration ident) := by
  rw [ofAttributes, Draft.foldlM_readAttribute_eq noBare]
  rfl

theorem exists_ofAttributes (ident : String) (noBare : .bare ∉ attributes)
    (formed : ∀ item ∈ attributes.flatMap Attribute.items, item.IsItem) :
    ∃ d, ofAttributes ident attributes = .ok d ∧
      Declares ident (attributes.flatMap Attribute.items) d := by
  obtain ⟨draft, folded, knows⟩ := Draft.exists_foldlM formed
  exact ⟨_, by rw [ofAttributes_eq noBare, folded]; rfl, knows.declares ident⟩

theorem ofAttributes_eq_error {before after : List Meta} {bad : Meta} (noBare : .bare ∉ attributes)
    (split : attributes.flatMap Attribute.items = before ++ bad :: after)
    (formed : ∀ item ∈ before, item.IsItem)
    (fault : bad.Fault e) : ofAttributes ident attributes = .error e := by
  rw [ofAttributes_eq noBare, split, Draft.foldlM_eq_error formed fault]
  rfl

-- The first fault among items that are not all well-formed.
theorem exists_first_fault (malformed : ¬∀ item ∈ items, item.IsItem) : ∃ before bad after e,
    items = before ++ bad :: after ∧ (∀ item ∈ before, item.IsItem) ∧ bad.Fault e := by
  obtain ⟨before, bad, after, split, formed, malformed⟩ := exists_first_of_not_forall malformed
  obtain ⟨e, fault⟩ := (isItem_or_fault bad).resolve_left malformed
  exact ⟨before, bad, after, e, split, formed, fault⟩

-- It does not matter to which attributes the items belong. If they are well-formed, the declaration
-- is theirs. Otherwise the first of them that is not decides about the error, whatever follows it.
theorem items_read_in_order (ident : String) (attributes : List Attribute)
    (noBare : .bare ∉ attributes) :
    let items := attributes.flatMap Attribute.items
    (∀ attributes', .bare ∉ attributes' → attributes'.flatMap Attribute.items = items →
      ofAttributes ident attributes' = ofAttributes ident attributes) ∧
    ((∀ item ∈ items, item.IsItem) →
      ∃ d, ofAttributes ident attributes = .ok d ∧ Declares ident items d) ∧
    ((¬∀ item ∈ items, item.IsItem) → ∃ before bad after e, items = before ++ bad :: after ∧
      (∀ item ∈ before, item.IsItem) ∧ bad.Fault e ∧ ofAttributes ident attributes = .error e) ∧
    ∀ before bad after e, items = before ++ bad :: after →
      (∀ item ∈ before, item.IsItem) → bad.Fault e → ofAttributes ident attributes = .error e := by
  intro items
  refine ⟨?_, exists_ofAttributes ident noBare, ?_, fun _ _ _ _ => ofAttributes_eq_error noBare⟩
  · intro attributes' noBare' same
    rw [ofAttributes_eq noBare', ofAttributes_eq noBare, same]
  · intro malformed
    obtain ⟨before, bad, after, e, split, formed, fault⟩ := exists_first_fault malformed
    exact ⟨before, bad, after, e, split, formed, fault,
      ofAttributes_eq_error noBare split formed fault⟩

-- Attributes that belong to something else are passed over, and of what is given twice the last
-- counts. A fault that follows is found, and nothing behind it.
theorem items_read_in_order_of_two :
    let name (text : String) := Meta.mk "name" none (some (.string text))
    let indexItems := [Meta.mk "unique" none none, .mk "fields" none (some (.string "sku, brand")),
      .mk "unique" none (some (.bool false))]
    let index := Meta.mk "index" (some indexItems) none
    let attributes : List Attribute :=
      [.collection [name "likes"], .other,
        .collection [index, .mk "edge" none none, name "follows"]]
    (∃ d, ofAttributes "Follow" attributes = .ok d ∧ d.name = "follows" ∧ d.kind = .edge ∧
      d.indexes.map (·.fields) = [["sku", "brand"]] ∧
      d.indexes.map (·.options.get? "unique") = [some (.bool false)]) ∧
    ofAttributes "Follow" (attributes ++ [.collection [name "", .mk "key" none none]]) =
      .error .emptyName := by
  intro name indexItems index attributes
  let items := [name "likes", index, .mk "edge" none none, name "follows"]
  have lists : ListsNames "sku, brand" ["sku", "brand"] := listsNames_iff.mpr (by decide +kernel)
  have index_formed : index.IsItem := by
    refine .index ?_ ⟨.mk "fields" none (some (.string "sku, brand")), by simp [indexItems], rfl⟩
    simp only [indexItems, List.forall_mem_cons, List.not_mem_nil, false_imp_iff, implies_true,
      and_true]
    exact ⟨.flag (by decide), .fields lists (by decide), .setting (by decide) false⟩
  have formed : ∀ item ∈ items, item.IsItem := by
    simp only [items, List.forall_mem_cons, List.not_mem_nil, false_imp_iff, implies_true, and_true]
    exact ⟨.name (by decide), index_formed, .edge, .name (by decide)⟩
  have noBare : .bare ∉ attributes := by simp [attributes]
  obtain ⟨_, declared, _, _⟩ := items_read_in_order "Follow" attributes noBare
  obtain ⟨d, read, declares⟩ := declared formed
  have noBare' : .bare ∉ attributes ++ [.collection [name "", .mk "key" none none]] := by
    simp [attributes]
  obtain ⟨_, _, _, failed⟩ := items_read_in_order "Follow" _ noBare'
  have edge : ∃ item ∈ items, item.path = "edge" := ⟨.mk "edge" none none, by simp [items], rfl⟩
  have indexes : List.Forall₂ Describes [indexItems] d.indexes := declares.indexes
  obtain ⟨described, others, describes, rest, eq⟩ := List.forall₂_cons_left_iff.mp indexes
  rw [List.forall₂_nil_left_iff.mp rest] at eq
  obtain ⟨text, given, lists'⟩ := describes.fields
  cases given
  have fields := (listsNames_iff.mp lists').trans (listsNames_iff.mp lists).symm
  have unique := describes.option "unique" (by decide)
  refine ⟨⟨d, read, declares.name, declares.kind.mpr edge, ?_, ?_⟩,
    failed items _ _ _ rfl formed .unnamed⟩
  · rw [eq, List.map_singleton, fields]
  · rw [eq, List.map_singleton, unique]
    rfl

end Declaration
end RecordStore
