import RecordStore.Proofs.Record.ReadBack
import RecordStore.Query.Chain

-- The records of the documents that a query finds: one for each document, which shows all of it.
--
-- Documents are found as a whole or not at all, since one that no record can be made
-- of fails the query.

namespace RecordStore

namespace Record

variable {schema : Schema} {r : Record} {document : Fields}

-- Reserved attributes are kept apart from the user fields, unless they have a place of their own.
def SystemOnly (r : Record) : Prop :=
  ∀ name, r.system.contains name → isReserved name ∧ name ∉ links

theorem systemOnly_of_take {a a' : Adoption} (only : a.record.SystemOnly)
    (h : a.take name v = .ok a') :
    a'.record.SystemOnly := by
  cases Adoption.take_eq_ok h with
  | id | key | source | target | user => exact only
  | system other reserved =>
    intro held contained
    rcases (NameMap.contains_insert ..).mp contained with rfl | contained
    · exact ⟨reserved, other⟩
    · exact only held contained

theorem systemOnly_of_takeAll {a : Adoption} (only : a.record.SystemOnly)
    (attrs : List (String × Value)) :
    (a.takeAll attrs).2.record.SystemOnly := by
  induction attrs generalizing a with
  | nil => exact only
  | cons attr attrs ih =>
    simp only [Adoption.takeAll]
    split
    case h_1 taken => exact ih (systemOnly_of_take only taken)
    case h_2 => exact only

theorem systemOnly_of_adopt (h : empty.adopt schema document = (.ok (), r)) : r.SystemOnly := by
  have ⟨a, _, _, taken, _, _, eq⟩ := adopt_eq_taken h
  have only := systemOnly_of_takeAll (a := ⟨empty, none, none⟩) nofun document.entries
  rw [taken] at only
  rw [eq]
  exact only

-- A record that has been read from a document and not been changed since.
structure Wraps (r : Record) (document : Fields) : Prop where
  identity : ∃ id key, document.get? "_id" = some (.string id) ∧
    document.get? "_key" = some (.string key) ∧
    r.identity = some ⟨id, key⟩
  clean : r.dirty = ∅ ∧ r.pendingKey = none
  source : document.get? "_from" = r.source.map .string
  target : document.get? "_to" = r.target.map .string
  fields : r.fields = document.filter fun name _ => !isReserved name
  system : r.system = document.filter fun name _ => isReserved name && !links.contains name

theorem known_of_adopt_empty (h : empty.adopt schema document = (.ok (), r))
    (ne_id : name ≠ idAttribute)
    (ne_key : name ≠ keyAttribute) : r.known name = document.get? name := by
  rw [known_of_adopt h ne_id ne_key, known_empty, Option.or_none]

theorem fields_of_adopt (h : empty.adopt schema document = (.ok (), r)) :
    r.fields = document.filter fun name _ => !isReserved name := by
  refine NameMap.ext_get? fun name => ?_
  rw [NameMap.get?_filter_names]
  split
  case isTrue free =>
    have free : ¬isReserved name := by simpa using free
    have ne_link {link} (mem : link ∈ links) : name ≠ link :=
      fun eq => free (eq ▸ isReserved_of_mem_links mem)
    rw [← r.known_of_free free, known_of_adopt_empty h (ne_link (by decide)) (ne_link (by decide))]
  case isFalse reserved =>
    refine Option.not_isSome_iff_eq_none.mp fun held => ?_
    exact reserved (by simpa using (Consistent.empty.adopt h).user name held)

theorem system_of_adopt (h : empty.adopt schema document = (.ok (), r)) :
    r.system = document.filter fun name _ => isReserved name && !links.contains name := by
  refine NameMap.ext_get? fun name => ?_
  rw [NameMap.get?_filter_names]
  split
  case isTrue other =>
    simp only [links, List.contains_cons, List.contains_nil, Bool.or_false, Bool.and_eq_true,
      Bool.not_eq_true', Bool.or_eq_false_iff, beq_eq_false_iff_ne, ne_eq] at other
    obtain ⟨reserved, ne_id, ne_key, ne_from, ne_to⟩ := other
    rw [← known_of_adopt_empty h ne_id ne_key]
    simp [known, reserved, ne_from, ne_to]
  case isFalse other =>
    refine Option.not_isSome_iff_eq_none.mp fun held => other ?_
    simpa using systemOnly_of_adopt h name held

theorem wraps_of_adopt (key_held : document.get? keyAttribute = some (.string key))
    (h : empty.adopt schema document = (.ok (), r)) : r.Wraps document where
  identity := by
    obtain ⟨id, derived, id_held, _, identified⟩ := identity_of_adopt h
    rw [key_held] at identified
    exact ⟨id, key, id_held, key_held, identified⟩
  clean := by
    obtain ⟨extended, _, _, extends_empty, rfl, _⟩ := adopt_eq_ok h
    exact ⟨extends_empty.dirty, rfl⟩
  source := (known_of_adopt_empty h (by decide) (by decide)).symm
  target := (known_of_adopt_empty h (by decide) (by decide)).symm
  fields := fields_of_adopt h
  system := system_of_adopt h

-- A stored document becomes a record if its links are strings, and its id is one
-- of the schema's collection.
theorem exists_ofFields_iff (schema : Schema) (id_held : document.contains idAttribute) :
    (∃ r, ofFields schema document = .ok r) ↔
      (∀ attr ∈ links, ∀ v, document.get? attr = some v → ∃ s, v = .string s) ∧
        ∃ id key, document.get? idAttribute = some (.string id) ∧ schema.keyOf id = .ok key := by
  rw [← adopt_isOk_iff schema empty document]
  simp only [ofFields_eq_ok_iff id_held]
  rcases empty.adopt schema document with ⟨_ | ⟨⟩, _⟩ <;> simp [Except.isOk, Except.toBool]

-- What an answer gives back of a document is the document itself.
theorem ofValue_object (schema : Schema) (document : Fields) :
    ofValue schema (.object document) = ofFields schema document := by
  rw [ofValue, Reference.ofValue]
  rfl

-- A stored document fails to become a record only by an end that is not a string,
-- or by its collection.
theorem exists_ofValue_iff (identified : HasIdentity schema.name document key) :
    (∃ r, ofValue schema (.object document) = .ok r) ↔
      (∀ attr ∈ ["_from", "_to"], ∀ v, document.get? attr = some v → ∃ s, v = .string s) ∧
        Id.isWord schema.name.toList := by
  have ⟨legal, key_held, id_held⟩ := identified
  have contained : document.contains idAttribute := NameMap.contains_of_get? id_held
  have named : (∃ id key, document.get? idAttribute = some (.string id) ∧
    schema.keyOf id = .ok key) ↔
      Id.isWord schema.name.toList := by
    simp [id_held, Schema.keyOf, ← Id.exists_keyOf_of_iff legal.1]
  rw [ofValue_object, exists_ofFields_iff schema contained, named]
  simp [links, id_held, key_held, fromAttribute, toAttribute]

end Record

namespace Schema

variable {schema : Schema} {documents : List Fields}

-- What becomes of documents that have been found.
structure Wrapping (schema : Schema) (documents : List Fields)
    (result : Except Error (List Record)) : Prop where
  fails_iff : (∃ e, result = .error e) ↔
    (∃ document ∈ documents, ∃ attr ∈ ["_from", "_to"], ∃ v,
      document.get? attr = some v ∧ ∀ s, v ≠ .string s) ∨
      documents ≠ [] ∧ ¬Id.isWord schema.name.toList
  wraps : ∀ records, result = .ok records → List.Forall₂ Record.Wraps records documents

theorem wrapping_records
    (identified : ∀ document ∈ documents, ∃ key, HasIdentity schema.name document key) :
    schema.Wrapping documents
      (schema.records (documents.map fun document => .ok (.object document))) := by
  have records : schema.records (documents.map fun document => .ok (.object document)) =
      documents.mapM fun document => Record.ofValue schema (.object document) := by
    rw [Schema.records, List.mapM_map]
    rfl
  rw [records]
  constructor
  case fails_iff =>
    have each : (∀ document ∈ documents, ∃ r, Record.ofValue schema (.object document) = .ok r) ↔
        ∀ document ∈ documents,
          (∀ attr ∈ ["_from", "_to"], ∀ v, document.get? attr = some v → ∃ s, v = .string s) ∧
            Id.isWord schema.name.toList :=
      forall₂_congr fun document mem =>
        Record.exists_ofValue_iff (identified document mem).choose_spec
    rw [exists_eq_error_iff, mapM_isOk_iff, each, forall₂_and, not_and_or]
    push Not
    simp [List.eq_nil_iff_forall_not_mem]
  case wraps =>
    intro records made
    have wrapped := (List.forall₂_and_left ..).mpr ⟨identified, mapM_eq_ok_iff.mp made⟩
    refine (wrapped.imp fun document r made => ?_).flip
    have ⟨⟨key, _, key_held, id_held⟩, made⟩ := made
    have contained : document.contains idAttribute := NameMap.contains_of_get? id_held
    rw [Record.ofValue_object] at made
    exact Record.wraps_of_adopt key_held ((Record.ofFields_eq_ok_iff contained).mp made)

variable {store : Store} {c : Collection}

theorem wrapping_fetch {env : Environment} {q : Query}
    (answered : store.query env q = (.ok (documents.map .object), store))
    (identified : ∀ document ∈ documents, ∃ key, HasIdentity schema.name document key) :
    ∃ result, schema.fetch (Store.connector env) q store = (result, store) ∧
      schema.Wrapping documents result := by
  have answered : (Store.connector env).query q store =
      (.ok (documents.map fun document => .ok (.object document)), store) := by
    simp [Store.connector, answered, Except.map]
  rw [fetch, answered]
  exact ⟨_, rfl, wrapping_records identified⟩

-- Nothing of what a query finds is lost.
theorem found_documents_are_wrapped (reachable : store.Reachable)
    (held : store.collections.get? schema.name = some c) (env : Environment) :
    (∀ plan documents, plan.select env c.documents = .ok documents →
      ∃ result, (OpenQuery.mk schema plan).run (Store.connector env) store = (result, store) ∧
        schema.Wrapping documents result) ∧
    ∀ sorts, ∃ result, schema.all (Store.connector env) sorts store = (result, store) ∧
      schema.Wrapping (sortDocuments sorts c.documents) result := by
  have ⟨identity, _⟩ := Collection.identified_preserved.of_reachable reachable schema.name c held
  have collection := Store.collection_eq_ok_iff.mpr held
  constructor
  · intro plan documents selected
    have found : store.find env schema.name plan = .ok documents :=
      bind_eq_ok_iff.mpr ⟨c, collection, selected⟩
    have answered :
        store.query env (.find schema.name plan) = (.ok (documents.map .object), store) :=
      congrArg (Prod.mk · store) (map_eq_ok_iff.mpr ⟨documents, found, rfl⟩)
    refine wrapping_fetch answered fun document mem => ?_
    exact identity document (plan.mem_of_select selected mem)
  · intro sorts
    have found : store.all schema.name sorts = .ok (sortDocuments sorts c.documents) :=
      bind_eq_ok_iff.mpr ⟨c, collection, rfl⟩
    have answered : store.query env (.all schema.name sorts) =
        (.ok ((sortDocuments sorts c.documents).map .object), store) :=
      congrArg (Prod.mk · store) (map_eq_ok_iff.mpr ⟨_, found, rfl⟩)
    refine wrapping_fetch answered fun document mem => ?_
    exact identity document ((List.mergeSort_perm ..).subset mem)

-- A document that no record can be made of fails all that finds it, and nothing else.
theorem found_documents_are_wrapped_of_two :
    let env : Environment := ⟨fun _ => "k", fun _ => none⟩
    let schema : Schema := ⟨"items", .document, [], writeUnchanged⟩
    let store := [
      Store.Operation.createCollection "items" .document,
      .importDocuments "items" [
        .ofList [("_key", .string "a"), ("_from", .string "users/b"), ("_x", .null),
          ("name", .string "b")],
        .ofList [("_to", .null), ("name", .string "c")]]].foldl (Store.after env) .empty
    let plan : Plan := ⟨[⟨"name", .notEqual, .ne, .value (.string "c"), "name_0"⟩], none, [], none⟩
    (∃ e, schema.all (Store.connector env) [] store = (.error e, store)) ∧
    ∃ r document, (OpenQuery.mk schema plan).run (Store.connector env) store = (.ok [r], store) ∧
      r.Wraps document ∧ (document.get? "name").bind Value.string? = some "b" := by
  intro env schema store plan
  have legal : ∀ n, LegalKey (env.key n) := fun _ => by simp [env, LegalKey]
  have reachable : store.Reachable := Store.Reachable.empty.run legal _
  let ends (d : Fields) := [(d.get? "_from").map Value.string?, (d.get? "_to").map Value.string?]
  have computed : (store.collections.get? "items").map (fun c => c.documents.map fun d =>
      (plan.holds ∅ d, (d.get? "name").bind Value.string?, ends d)) =
        some [(true, some "b", [some (some "users/b"), none]),
          (false, some "c", [none, some none])] := by
    decide +kernel
  obtain ⟨c, (held : store.collections.get? schema.name = some c), listed⟩ :=
    Option.map_eq_some_iff.mp computed
  obtain ⟨d₁, _, documents, first, listed⟩ := List.map_eq_cons_iff.mp listed
  obtain ⟨d₂, _, rfl, second, listed⟩ := List.map_eq_cons_iff.mp listed
  cases List.map_eq_nil_iff.mp listed
  simp only [Prod.mk.injEq, ends, List.cons.injEq, and_true] at first second
  obtain ⟨found, every⟩ := found_documents_are_wrapped reachable held env
  constructor
  · obtain ⟨result, answered, wrapping⟩ := every []
    obtain ⟨v, to_held, not_string⟩ := Option.map_eq_some_iff.mp second.2.2.2
    have mem : d₂ ∈ sortDocuments [] c.documents := List.mem_mergeSort.mpr (by simp [documents])
    obtain ⟨e, failed⟩ :=
      wrapping.fails_iff.mpr <| .inl ⟨d₂, mem, "_to", by simp, v, to_held, fun s eq => by
      rw [eq] at not_string
      cases not_string⟩
    exact ⟨e, by rw [answered, failed]⟩
  · have selected : plan.select env c.documents = .ok [d₁] := by
      refine bind_eq_ok_iff.mpr ⟨∅, rfl, ?_⟩
      simp [documents, first.1, second.1, sortDocuments, Window.apply, plan]
      rfl
    obtain ⟨result, answered, wrapping⟩ := found plan [d₁] selected
    cases result with
    | error e =>
      rcases wrapping.fails_iff.mp ⟨e, rfl⟩ with
        ⟨d, mem, attr, is_end, v, end_held, not_string⟩ | ⟨_, not_word⟩
      · cases List.mem_singleton.mp mem
        have ends_held := first.2.2
        simp only [List.mem_cons, List.not_mem_nil, or_false] at is_end
        rcases is_end with rfl | rfl
        · cases v <;> simp_all [Value.string?]
        · simp_all
      · exact absurd (by decide +kernel) not_word
    | ok records =>
      cases wrapping.wraps records rfl with
      | cons wraps rest =>
        cases rest
        exact ⟨_, d₁, answered, wraps, first.2.1⟩

end Schema
end RecordStore
