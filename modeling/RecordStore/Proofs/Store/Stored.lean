import RecordStore.Proofs.Record.Saving
import RecordStore.Proofs.Store.Identity

namespace RecordStore

-- A document in a store, of the collection and under the id that are given.
structure Stored (name id : String) where
  store : Store
  collection : Collection
  index : Nat
  document : Fields
  key : String
  held : store.collections.get? name = some collection
  identified : collection.Identified name
  at_index : collection.documents[index]? = some document
  key_held : document.get? keyAttribute = some (.string key)
  id_held : document.get? idAttribute = some (.string id)

namespace Stored

variable {name id : String} {store : Store} {document : Fields}

-- The store with another document at the place of this one.
def replace (s : Stored name id) (document : Fields) : Store :=
  s.store.setCollection name
    { s.collection with documents := s.collection.documents.set s.index document }

-- A document that is read from a reachable store is at some place in it.
theorem exists_of_document (r : store.Reachable)
    (h : store.document name id = .object document) :
    ∃ s : Stored name id, s.store = store ∧ s.document = document := by
  have ⟨key, c, id_eq, held, found⟩ := Store.document_eq_object h
  have ⟨i, position, at_index⟩ := Collection.exists_position?_of_find? found
  have identified := Collection.identified_preserved.of_reachable r name c held
  have ⟨key', _, key_held, id_held⟩ :=
    identified.identity document (List.mem_of_getElem? at_index)
  cases key_held.symm.trans (Collection.get?_of_find? found)
  rw [← id_eq] at id_held
  exact ⟨⟨store, c, i, document, key, held, identified, at_index, key_held, id_held⟩, rfl, rfl⟩

variable (s : Stored name id)

-- Among the documents of the collection, a key and an id determine each other.
theorem id_eq : id = Id.of name s.key := by
  have ⟨key, _, key_held, id_held⟩ :=
    s.identified.identity s.document (List.mem_of_getElem? s.at_index)
  cases key_held.symm.trans s.key_held
  simpa using s.id_held.symm.trans id_held

theorem keyOf_eq {key : String} (h : Id.keyOf name id = .ok key) : key = s.key :=
  Id.keyOf_of <| s.id_eq ▸ h

theorem position?_eq : s.collection.position? s.key = some s.index := by
  have ⟨lt, eq⟩ := List.getElem?_eq_some_iff.mp s.at_index
  exact s.identified.position?_eq lt (eq ▸ s.key_held)

@[simp]
theorem replace_document : s.replace s.document = s.store := by
  have ⟨lt, eq⟩ := List.getElem?_eq_some_iff.mp s.at_index
  have same : s.collection.documents.set s.index s.document = s.collection.documents := by
    rw [← eq, List.set_getElem_self]
  rw [replace, same, Store.setCollection, NameMap.insert_of_get? s.held]

-- What is read under the id is the document.
theorem eq_of_document {document : Fields} (h : s.store.document name id = .object document) :
    document = s.document := by
  have ⟨key, c, id_eq, held, found⟩ := Store.document_eq_object h
  cases held.symm.trans s.held
  have key_eq : key = s.key := Id.of_inj.mp (id_eq.symm.trans s.id_eq)
  have found' := Collection.find?_eq_getElem? s.position?_eq
  rw [← key_eq, found, s.at_index] at found'
  exact Option.some.inj found'

-- The same place with a document of the same identity.
def change (document : Fields)
    (key_eq : document.get? keyAttribute = s.document.get? keyAttribute)
    (id_eq : document.get? idAttribute = s.document.get? idAttribute) : Stored name id where
  store := s.replace document
  collection := { s.collection with documents := s.collection.documents.set s.index document }
  index := s.index
  document := document
  key := s.key
  held := by simp [replace]
  identified := s.identified.set s.at_index key_eq id_eq
  at_index := by
    have ⟨lt, _⟩ := List.getElem?_eq_some_iff.mp s.at_index
    simp [lt]
  key_held := key_eq ▸ s.key_held
  id_held := id_eq ▸ s.id_held

@[simp]
theorem change_document {key_eq id_eq} : (s.change document key_eq id_eq).document = document :=
  rfl

-- Only what has been put at the place last is there.
@[simp]
theorem replace_change {key_eq id_eq} (document' : Fields) :
    (s.change document key_eq id_eq).replace document' = s.replace document' := by
  simp [change, replace, Store.setCollection, NameMap.insert_insert]

-- An update by the document's key is one of the document.
theorem update_eq_ok {patch : Fields} {store' : Store}
    (h : s.store.update name s.key patch = (.ok (), store')) :
    store' = s.replace (Collection.patched s.document patch) := by
  have ⟨c, c', held, updated, eq⟩ := Store.update_eq_ok h
  cases held.symm.trans s.held
  have ⟨i, document, position, at_index, _, eq'⟩ := Collection.update_eq_ok updated
  cases position.symm.trans s.position?_eq
  cases at_index.symm.trans s.at_index
  rw [eq, eq']
  rfl

end Stored
end RecordStore
