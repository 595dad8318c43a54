import RecordStore.Proofs.Id
import RecordStore.Proofs.Store.Effect
import RecordStore.Schema.Access

-- References to the documents of a collection: a key and the id that is made of it refer to the
-- same document, and an id of another collection refers to none.

namespace RecordStore

namespace Id

variable {collection name name' key key' id : String}

-- The names that ids begin with: runs of letters, digits and underscores.
def IsName (name : String) : Prop :=
  name ≠ "" ∧ ∀ c ∈ name.toList, Unicode.isAlphanumeric c ∨ c = '_'

theorem isWord_toList_iff : isWord name.toList ↔ IsName name := by
  simp [isWord_iff, IsName, isWordCharacter]

theorem IsName.no_slash (named : IsName name) : '/' ∉ name.toList := by
  intro slash
  have ⟨_, characters⟩ := isWord_iff.mp (isWord_toList_iff.mpr named)
  exact ne_slash_of_isWordCharacter (characters '/' slash) rfl

theorem split?_of_isName (named : IsName name) (key_ne : key ≠ "") :
    split? (of name key) = some (name, key) :=
  split?_of (isWord_toList_iff.mpr named) key_ne

-- The name ends at the first slash, whatever the key is like.
theorem IsName.of_inj (named : IsName name) (named' : IsName name') (key_ne : key ≠ "")
    (key'_ne : key' ≠ "")
    (eq : of name key = of name' key') : name = name' ∧ key = key' := by
  have split := split?_of_isName named key_ne
  rw [eq, split?_of_isName named' key'_ne] at split
  cases split
  exact ⟨rfl, rfl⟩

-- A key that can be stored is no id.
theorem split?_of_no_slash (no_slash : '/' ∉ key.toList) : split? key = none := by
  cases split : split? key with
  | none => rfl
  | some parts =>
    have eq : key = of parts.1 parts.2 := eq_of_split? split
    simp [eq, of] at no_slash

theorem keyOfReference_of_no_slash (key_ne : key ≠ "") (no_slash : '/' ∉ key.toList) :
    keyOfReference collection key = .ok key := by
  simp [keyOfReference, key_ne, split?_of_no_slash no_slash]

theorem keyOfReference_of_split? (split : split? id = some (name, key)) :
    keyOfReference collection id = keyOf collection id := by
  have not_empty : ¬id.isEmpty := by simp [eq_of_split? split, of]
  simp only [keyOfReference, if_neg not_empty, split]

end Id

namespace Store

variable {store store' : Store} {env : Environment} {name key : String}

-- To remove a document is to leave it out. All others stay, and they have other keys.
theorem remove_eq_left_out (reachable : store.Reachable)
    (h : store.remove name key = (.ok (), store')) :
    ∃ c before document after, store.collections.get? name = some c ∧
      c.documents = before ++ document :: after ∧ document.get? "_key" = some (.string key) ∧
      (∀ other ∈ before ++ after, other.get? "_key" ≠ some (.string key)) ∧
      store' = store.setCollection name { c with documents := before ++ after } := by
  have ⟨c, c', held, removed, eq⟩ := remove_eq_ok h
  have ⟨i, position, eq'⟩ := Collection.remove_eq_ok removed
  have identified := Collection.identified_preserved.of_reachable reachable name c held
  have ⟨before, document, after, parts, length, has, before_lacks, after_lacks⟩ :=
    identified.split position
  have rest : c.documents.eraseIdx i = before ++ after := by
    rw [parts, List.eraseIdx_append_of_length_le (Nat.le_of_eq length), length, Nat.sub_self,
      List.eraseIdx_cons_zero]
  refine ⟨c, before, document, after, held, parts, Collection.hasKey_iff.mp has,
    fun other mem same => ?_, ?_⟩
  · have lacks : ¬Collection.hasKey other key :=
      (List.mem_append.mp mem).elim (before_lacks _) (after_lacks _)
    exact lacks (Collection.hasKey_iff.mpr same)
  · rw [eq, eq', rest]

-- A document is removed if there is one with the key.
theorem remove_isOk_iff (store : Store) (name key : String) :
    (store.remove name key).1 = .ok () ↔
      ∃ c document, store.collections.get? name = some c ∧ document ∈ c.documents ∧
        document.get? "_key" = some (.string key) := by
  constructor
  · intro h
    have ⟨c, c', held, removed, _⟩ := remove_eq_ok (Prod.ext h rfl)
    have ⟨i, position, _⟩ := Collection.remove_eq_ok removed
    have ⟨lt, has⟩ := Collection.getElem_of_position? position
    exact ⟨c, _, held, List.getElem_mem lt, Collection.hasKey_iff.mp has⟩
  · intro ⟨c, document, held, mem, has⟩
    cases position : c.position? key with
    | none =>
      have none := Collection.position?_eq_none_iff.mp position document mem
      exact absurd (Collection.hasKey_iff.mpr has) none
    | some i =>
      simp [Store.remove, change, collection_eq_ok_iff.mpr held, Collection.remove, position]

end Store

namespace Schema

variable {schema : Schema} {store : Store} {name id key : String}

-- The ids that a collection can give to its documents, which are none if its name is not a word.
def Owns (schema : Schema) (id : String) : Prop :=
  Id.IsName schema.name ∧ ∃ key, key ≠ "" ∧ id = schema.name ++ "/" ++ key

theorem keyOf_eq_ok_iff : schema.keyOf id = .ok key ↔
    id = schema.idOf key ∧ Id.IsName schema.name ∧ key ≠ "" := by
  rw [keyOf, Id.keyOf_eq_ok_iff, Id.split?_eq_some_iff, Id.isWord_toList_iff, idOf]

theorem exists_keyOf_iff : (∃ key, schema.keyOf id = .ok key) ↔ schema.Owns id := by
  simp only [keyOf_eq_ok_iff, Owns, idOf, Id.of]
  constructor
  · rintro ⟨key, eq, named, key_ne⟩
    exact ⟨named, key, key_ne, eq⟩
  · rintro ⟨named, key, key_ne, eq⟩
    exact ⟨key, eq, named, key_ne⟩

-- How the keys and the ids of a collection are read.
structure ReadsReferences (schema : Schema) : Prop where
  id : ∀ key, key ≠ "" → schema.keyOf (schema.idOf key) = .ok key
  id_only : ∀ s, (∃ key, schema.keyOf s = .ok key) ↔ ∃ key, key ≠ "" ∧ s = schema.idOf key
  reference_id : ∀ key, key ≠ "" → schema.keyOfReference (schema.idOf key) = .ok key
  reference_key : ∀ key, key ≠ "" → '/' ∉ key.toList → schema.keyOfReference key = .ok key
  foreign : ∀ name key, Id.IsName name → name ≠ schema.name → key ≠ "" →
    (∃ e, schema.keyOf (name ++ "/" ++ key) = .error e) ∧
      ∃ e, schema.keyOfReference (name ++ "/" ++ key) = .error e

theorem readsReferences (named : Id.IsName schema.name) : schema.ReadsReferences := by
  have reads (key) (key_ne : key ≠ "") : schema.keyOf (schema.idOf key) = .ok key :=
    keyOf_eq_ok_iff.mpr ⟨rfl, named, key_ne⟩
  constructor
  case id => exact reads
  case id_only =>
    intro s
    rw [exists_keyOf_iff, Owns, and_iff_right named]
    rfl
  case reference_id =>
    intro key key_ne
    exact (Id.keyOfReference_of_split? (Id.split?_of_isName named key_ne)).trans (reads key key_ne)
  case reference_key => exact fun _ => Id.keyOfReference_of_no_slash
  case foreign =>
    intro name key named' ne key_ne
    have rejected : ∃ e, schema.keyOf (name ++ "/" ++ key) = .error e := by
      rw [exists_eq_error_iff]
      rintro ⟨key', accepted⟩
      obtain ⟨eq, _, key'_ne⟩ := keyOf_eq_ok_iff.mp accepted
      exact ne (named'.of_inj named key_ne key'_ne eq).1
    have alike : schema.keyOfReference (name ++ "/" ++ key) = schema.keyOf (name ++ "/" ++ key) :=
      Id.keyOfReference_of_split? (Id.split?_of_isName named' key_ne)
    exact ⟨rejected, alike ▸ rejected⟩

-- To delete by a reference is to remove by the key in it.
theorem delete_eq (schema : Schema) (env : Environment) (reference : String) (store : Store) :
    schema.delete (Store.connector env) reference store =
      match schema.keyOfReference reference with
      | .error e => (.error e, store)
      | .ok key => store.remove schema.name key := by
  unfold delete
  cases schema.keyOfReference reference with
  | error e => rfl
  | ok key =>
    simp only [Store.connector, Store.query, Query.remove]
    rcases store.remove schema.name key with ⟨_ | _, _⟩ <;> rfl

theorem delete_eq_ok {env : Environment} {reference : String} {store' : Store}
    (h : schema.delete (Store.connector env) reference store = (.ok (), store')) :
    ∃ key, schema.keyOfReference reference = .ok key ∧
      store.remove schema.name key = (.ok (), store') := by
  rw [delete_eq] at h
  split at h
  case h_1 => cases h
  case h_2 key resolved => exact ⟨key, resolved, h⟩

-- What it is to delete documents of a collection by references to them.
structure DeletesReferred (schema : Schema) (env : Environment) (store : Store) : Prop where
  succeeds_iff : ∀ reference, (schema.delete (Store.connector env) reference store).1 = .ok () ↔
    ∃ key c document, schema.keyOfReference reference = .ok key ∧
      store.collections.get? schema.name = some c ∧ document ∈ c.documents ∧
      document.get? "_key" = some (.string key)
  leaves_out : ∀ reference store',
    schema.delete (Store.connector env) reference store = (.ok (), store') →
    ∃ key c before document after, schema.keyOfReference reference = .ok key ∧
      store.collections.get? schema.name = some c ∧ c.documents = before ++ document :: after ∧
      document.get? "_key" = some (.string key) ∧
      (∀ other ∈ before ++ after, other.get? "_key" ≠ some (.string key)) ∧
      store' = store.setCollection schema.name { c with documents := before ++ after }
  fails_unchanged : ∀ reference e store',
    schema.delete (Store.connector env) reference store = (.error e, store') → store' = store
  alike : Id.IsName schema.name → ∀ c document key, store.collections.get? schema.name = some c →
    document ∈ c.documents → document.get? "_key" = some (.string key) →
      schema.delete (Store.connector env) key store =
        schema.delete (Store.connector env) (schema.idOf key) store

theorem deletesReferred (schema : Schema) (env : Environment) (reachable : store.Reachable) :
    schema.DeletesReferred env store := by
  constructor
  case succeeds_iff =>
    intro reference
    rw [delete_eq]
    cases resolved : schema.keyOfReference reference with
    | error e => simp
    | ok key => simp [store.remove_isOk_iff schema.name key]
  case leaves_out =>
    intro reference store' deleted
    have ⟨key, resolved, removed⟩ := delete_eq_ok deleted
    have ⟨c, before, document, after, left_out⟩ := Store.remove_eq_left_out reachable removed
    exact ⟨key, c, before, document, after, resolved, left_out⟩
  case fails_unchanged =>
    intro reference e store' failed
    rw [delete_eq] at failed
    split at failed
    case h_1 => cases failed; rfl
    case h_2 key _ => exact store.remove_atomic schema.name key e store' failed
  case alike =>
    intro named c document key held mem has
    have ⟨identity, _⟩ := Collection.identified_preserved.of_reachable reachable schema.name c held
    have ⟨_, ⟨key_ne, no_slash⟩, key_held, _⟩ := identity document mem
    cases has.symm.trans key_held
    have reads := readsReferences named
    rw [delete_eq, delete_eq, reads.reference_key key key_ne no_slash,
      reads.reference_id key key_ne]

-- An id is split in the only way in which it can be: into the name, which ends at the first slash,
-- and the key. A collection reads its own ids and keys and no ids of others. So documents can be
-- deleted by either of them, and no document is deleted that is not referred to.
theorem key_and_id_refer_alike :
    (∀ id name key, Id.split? id = some (name, key) ↔
      id = name ++ "/" ++ key ∧ Id.IsName name ∧ key ≠ "") ∧
    (∀ name, Id.IsName name → '/' ∉ name.toList) ∧
    (∀ name name' key key', Id.IsName name → Id.IsName name' → key ≠ "" → key' ≠ "" →
      name ++ "/" ++ key = name' ++ "/" ++ key' → name = name' ∧ key = key') ∧
    (∀ schema : Schema, Id.IsName schema.name → schema.ReadsReferences) ∧
    ∀ (schema : Schema) (env : Environment) (store : Store), store.Reachable →
      schema.DeletesReferred env store := by
  have split_iff (id name key) : Id.split? id = some (name, key) ↔
      id = name ++ "/" ++ key ∧ Id.IsName name ∧ key ≠ "" := by
    rw [Id.split?_eq_some_iff, Id.isWord_toList_iff]
    rfl
  exact ⟨split_iff, fun _ => Id.IsName.no_slash, fun _ _ _ _ => Id.IsName.of_inj,
    fun _ => readsReferences, fun schema env _ => schema.deletesReferred env⟩

-- Of two documents, one is deleted, and it is the same one by its key and by its id.
theorem key_and_id_refer_alike_of_two :
    let env : Environment := ⟨fun _ => "k", fun _ => none⟩
    let conn := Store.connector env
    let schema : Schema := ⟨"items_2", .document, [], writeUnchanged⟩
    let store := [
      Store.Operation.createCollection "items_2" .document,
      .importDocuments "items_2" [
        .ofList [("_key", .string "l")], .ofList [("_key", .string "m")]]].foldl
          (Store.after env) .empty
    Id.split? "items_2/ü/m" = some ("items_2", "ü/m") ∧
    schema.keyOf (schema.idOf "ü/m") = .ok "ü/m" ∧
    (∃ e, schema.keyOfReference "items/l" = .error e) ∧
    schema.delete conn "l" store = schema.delete conn "items_2/l" store ∧
    ∃ c store', schema.delete conn "l" store = (.ok (), store') ∧
      store'.collections.get? "items_2" = some c ∧ c.documents.length = 1 ∧
      ∀ document ∈ c.documents, document.get? "_key" ≠ some (.string "l") := by
  intro env conn schema store
  have legal : ∀ n, LegalKey (env.key n) := fun _ => by simp [env, LegalKey]
  have reachable : store.Reachable := Store.Reachable.empty.run legal _
  have word : Id.isWord "items_2".toList := by decide +kernel
  have named : Id.IsName schema.name := Id.isWord_toList_iff.mp word
  have items_word : Id.isWord "items".toList := by decide +kernel
  have items : Id.IsName "items" := Id.isWord_toList_iff.mp items_word
  have computed : (store.collections.get? "items_2").map
      (fun c => c.documents.map fun document => (document.get? "_key").bind Value.string?) =
        some [some "l", some "m"] := by decide +kernel
  clear_value store
  obtain ⟨c, held, listed⟩ := Option.map_eq_some_iff.mp computed
  obtain ⟨document, rest, parts, has, _⟩ := List.map_eq_cons_iff.mp listed
  have two : c.documents.length = 2 := by simpa using congrArg List.length listed
  have key_held : document.get? "_key" = some (.string "l") :=
    Collection.hasKey_iff.mp (by simp [Collection.hasKey, keyAttribute, has])
  obtain ⟨split_iff, _, _, reads, deletes⟩ := key_and_id_refer_alike
  have reads := reads schema named
  have deletes := deletes schema env store reachable
  have resolved : schema.keyOfReference "l" = .ok "l" :=
    reads.reference_key "l" (by decide +kernel) (by decide +kernel)
  have mem : document ∈ c.documents := by simp [parts]
  have succeeds := (deletes.succeeds_iff "l").mpr ⟨"l", c, document, resolved, held, mem, key_held⟩
  rcases deleted : schema.delete conn "l" store with ⟨result, store'⟩
  rw [deleted] at succeeds
  cases succeeds
  obtain ⟨key, c', before, document', after, resolved', held', parts', _, others, eq⟩ :=
    deletes.leaves_out "l" store' deleted
  cases resolved.symm.trans resolved'
  cases held.symm.trans held'
  have one : (before ++ after).length = 1 := by
    have := congrArg List.length parts'
    simp only [two, List.length_append, List.length_cons] at this ⊢
    omega
  refine ⟨(split_iff ..).mpr ⟨by decide +kernel, named, by decide +kernel⟩,
    reads.id "ü/m" (by decide +kernel), ?_, ?_, ?_⟩
  · exact (reads.foreign "items" "l" items (by decide +kernel) (by decide +kernel)).2
  · rw [← deleted]
    exact deletes.alike named c document "l" held mem key_held
  · exact ⟨_, store', rfl, by rw [eq]; exact NameMap.get?_insert_self .., one, others⟩

end Schema
end RecordStore
