import RecordStore.Proofs.Store.Reachable
import Mathlib.Data.List.Nodup

namespace RecordStore

-- What identifies a document of a collection of the given name.
structure HasIdentity (name : String) (document : Fields) (key : String) : Prop where
  legal : LegalKey key
  key_held : document.get? keyAttribute = some (.string key)
  id_held : document.get? idAttribute = some (.string (Id.of name key))

namespace Collection

structure Identified (name : String) (c : Collection) : Prop where
  identity : ∀ document ∈ c.documents, ∃ key, HasIdentity name document key
  distinct : (c.documents.map (·.get? keyAttribute)).Nodup

variable {c c' : Collection} {name key generated : String}
  {document document' stored patch : Fields}

-- A position is that of the only document with its key.
theorem Identified.position?_eq (identified : c.Identified name) (lt : i < c.documents.length)
    (held : c.documents[i].get? keyAttribute = some (.string key)) : c.position? key = some i := by
  cases position : c.position? key with
  | none =>
    have absent := position?_eq_none_iff.mp position _ (List.getElem_mem lt)
    exact absurd (hasKey_iff.mpr held) absent
  | some j =>
    have ⟨j_lt, j_held⟩ := getElem_of_position? position
    congr 1
    have i_lt' : i < (c.documents.map (·.get? keyAttribute)).length := by simpa using lt
    have j_lt' : j < (c.documents.map (·.get? keyAttribute)).length := by simpa using j_lt
    have same : (c.documents.map (·.get? keyAttribute))[j] =
        (c.documents.map (·.get? keyAttribute))[i] := by
      simp [hasKey_iff.mp j_held, held]
    exact identified.distinct.getElem_inj_iff.mp same

theorem Identified.insert (identified : c.Identified name) (legal : LegalKey generated)
    (h : c.insert name generated document = (.ok stored, c')) : c'.Identified name := by
  have ⟨_, key, chosen, absent, eq, _, eq'⟩ := insert_eq_ok h
  subst eq eq'
  have fresh := position?_eq_none_iff.mp absent
  constructor
  case identity =>
    intro other mem
    rcases List.mem_append.mp mem with mem | mem
    · exact identified.identity other mem
    · cases List.mem_singleton.mp mem
      exact ⟨key, legalKey_of_chooseKey legal chosen, get?_identify_key .., get?_identify_id ..⟩
  case distinct =>
    rw [List.map_append, List.nodup_append]
    refine ⟨identified.distinct, by simp, ?_⟩
    simp only [List.mem_map, List.mem_singleton]
    rintro _ ⟨other, mem, rfl⟩ _ ⟨_, rfl, rfl⟩ eq
    rw [get?_identify_key] at eq
    exact fresh other mem (hasKey_iff.mpr eq)

-- A document may be replaced by one of the same identity.
theorem Identified.set (identified : c.Identified name) (held : c.documents[i]? = some document)
    (key_eq : document'.get? keyAttribute = document.get? keyAttribute)
    (id_eq : document'.get? idAttribute = document.get? idAttribute) :
    Identified name { c with documents := c.documents.set i document' } := by
  have ⟨lt, held⟩ := List.getElem?_eq_some_iff.mp held
  constructor
  case identity =>
    intro other mem
    rcases List.mem_or_eq_of_mem_set mem with mem | rfl
    · exact identified.identity other mem
    · have ⟨key, legal, key_held, id_held⟩ :=
        identified.identity document (held ▸ List.getElem_mem lt)
      exact ⟨key, legal, key_eq ▸ key_held, id_eq ▸ id_held⟩
  case distinct =>
    have same : (c.documents.map (·.get? keyAttribute)).set i (document'.get? keyAttribute) =
        c.documents.map (·.get? keyAttribute) := by
      have lt' : i < (c.documents.map (·.get? keyAttribute)).length := by simpa using lt
      have mapped : (c.documents.map (·.get? keyAttribute))[i] = document'.get? keyAttribute := by
        rw [List.getElem_map, held, key_eq]
      rw [← mapped, List.set_getElem_self]
    rw [List.map_set, same]
    exact identified.distinct

-- A patch leaves the key and the id as they are, so that it changes no document's identity.
theorem Identified.update (identified : c.Identified name)
    (h : c.update name key patch = (.ok (), c')) :
    c'.Identified name := by
  have ⟨i, document, _, held, _, eq⟩ := update_eq_ok h
  rw [eq]
  exact identified.set held (by simp [get?_patched]) (by simp [get?_patched])

theorem Identified.remove (identified : c.Identified name) (h : c.remove name key = (.ok (), c')) :
    c'.Identified name := by
  have ⟨i, _, eq⟩ := remove_eq_ok h
  subst eq
  have sublist := List.eraseIdx_sublist c.documents i
  exact ⟨fun document mem => identified.identity document (sublist.subset mem),
    identified.distinct.sublist (sublist.map _)⟩

theorem Identified.createIndex (identified : c.Identified name) (index : Index) :
    (c.createIndex index).Identified name :=
  ⟨by rw [createIndex_documents]; exact identified.identity,
    by rw [createIndex_documents]; exact identified.distinct⟩

theorem identified_preserved : Store.Preserved fun name c => c.Identified name where
  new := ⟨nofun, List.nodup_nil⟩
  insert := Identified.insert
  update := Identified.update
  remove := Identified.remove
  createIndex identified _ := identified.createIndex _

end Collection

namespace Store

-- Whatever a store has been asked to do, its documents are identified.
theorem Reachable.identity {store : Store} (r : Reachable store)
    (held : store.collections.get? name = some c) :
    (∀ document ∈ c.documents, ∃ key,
      (key ≠ "" ∧ '/' ∉ key.toList) ∧
      document.get? "_key" = some (.string key) ∧
      document.get? "_id" = some (.string (name ++ "/" ++ key))) ∧
    c.documents.Pairwise fun a b => a.get? "_key" ≠ b.get? "_key" := by
  have identified := Collection.identified_preserved.of_reachable r name c held
  constructor
  · intro document mem
    have ⟨key, legal, key_held, id_held⟩ := identified.identity document mem
    exact ⟨key, legal, key_held, id_held⟩
  · exact List.pairwise_map.mp identified.distinct

-- Two documents are stored, whatever identity they claim to have and are later claimed to have.
theorem Reachable.identity_of_claimed :
    let env : Environment := ⟨fun _ => "k", fun _ => none⟩
    let store := [
      Operation.createCollection "a" .document,
      .query (.insert "a" (.ofList [("_id", .string "b/x")])),
      .query (.insert "a" (.ofList [("_key", .string "x/y")])),
      .importDocuments "a" [.ofList [("_key", .string "l")], .ofList [("_key", .string "k")]],
      .query (.update "a" "k" (.ofList [("_id", .null), ("_key", .string "l")]))].foldl
        (Store.after env) .empty
    ∃ c, store.collections.get? "a" = some c ∧ c.documents.length = 2 ∧
      (∀ document ∈ c.documents, ∃ key,
        (key ≠ "" ∧ '/' ∉ key.toList) ∧
        document.get? "_key" = some (.string key) ∧
        document.get? "_id" = some (.string ("a" ++ "/" ++ key))) ∧
      c.documents.Pairwise fun a b => a.get? "_key" ≠ b.get? "_key" := by
  intro env store
  have legal : ∀ n, LegalKey (env.key n) := fun _ => by simp [env, LegalKey]
  have reachable : store.Reachable := Reachable.empty.run legal _
  have two : (store.collections.get? "a").map (·.documents.length) = some 2 := by decide +kernel
  obtain ⟨c, held, length⟩ := Option.map_eq_some_iff.mp two
  exact ⟨c, held, length, reachable.identity held⟩

end Store
end RecordStore
