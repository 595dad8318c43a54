import RecordStore.Proofs.Store.Stored

namespace RecordStore

namespace Record

-- A record of a stored document. Saving it writes nothing but user fields.
structure IsCopy (r : Record) (identity : Identity) : Prop where
  identity_eq : r.identity = some identity
  user : ∀ name, r.dirty.contains name → ¬isReserved name

namespace IsCopy

variable {r r' : Record} {identity : Identity}

theorem dirty_of_diff (copy : r.IsCopy identity) {attr : String} (h : (r.diff.get? attr).isSome) :
    r.dirty.contains attr := by
  rw [diff_of_identified copy.identity_eq] at h
  exact (contains_changes.mp h).2

theorem get?_diff_of_reserved (copy : r.IsCopy identity) {attr : String}
    (reserved : isReserved attr) : r.diff.get? attr = none := by
  rw [← Option.not_isSome_iff_eq_none]
  exact fun written => copy.user attr (copy.dirty_of_diff written) reserved

theorem set (copy : r.IsCopy identity) {changed : Bool} {field : String} {value : Value}
    (h : r.set field value = .ok (changed, r')) : r'.IsCopy identity := by
  rcases set_eq_ok h with rfl | ⟨free, rfl⟩
  · exact copy
  · refine ⟨copy.identity_eq, fun other mem => ?_⟩
    rw [markDirty, NameMap.contains, NameMap.get?_insert] at mem
    split at mem
    case isTrue eq => exact eq ▸ free
    case isFalse => exact copy.user other mem

-- Once there is nothing left to be written, all that counts is the identity.
theorem of_clean (identified : r.identity = some identity) (clean : r.dirty = ∅) :
    r.IsCopy identity :=
  ⟨identified, fun name mem => by rw [clean] at mem; cases mem⟩

theorem written (copy : r.IsCopy identity) (diff : Fields) : (r.written diff).IsCopy identity :=
  of_clean copy.identity_eq rfl

theorem refreshed (copy : r.IsCopy identity) (document : Fields) :
    (r.refreshed document).IsCopy identity :=
  of_clean copy.identity_eq rfl

theorem get?_override_diff (copy : r.IsCopy identity) (document : Fields) {attr : String}
    (reserved : isReserved attr) : (document.override r.diff).get? attr = document.get? attr := by
  simp [NameMap.get?_override, copy.get?_diff_of_reserved reserved]

-- Since there is nothing of the identity in a diff, none of it is left out by an update.
theorem patched_diff (copy : r.IsCopy identity) (document : Fields) :
    Collection.patched document r.diff = document.override r.diff := by
  refine NameMap.ext_get? fun attr => ?_
  rw [Collection.get?_patched]
  split
  case isTrue eq =>
    have reserved : isReserved attr := by rcases eq with rfl | rfl <;> rfl
    exact (copy.get?_override_diff document reserved).symm
  case isFalse => exact (NameMap.get?_override ..).symm

end IsCopy
end Record

namespace Stored

variable {schema : Schema} {id : String} {env : Environment} {r r' : Record} {store' : Store}

def identity (s : Stored schema.name id) : Identity := ⟨id, s.key⟩

-- What a record saves is written over the document, and what it fails to save changes nothing.
theorem save_eq_ok (s : Stored schema.name id) (hook : schema.beforeSave = Schema.writeUnchanged)
    (copy : r.IsCopy s.identity)
    (h : r.save schema (Store.connector env) s.store = (.ok (), r', store')) :
    store' = s.replace (s.document.override r.diff) ∧ r'.IsCopy s.identity := by
  rw [Record.save_of_identified hook copy.identity_eq] at h
  split at h
  case isTrue empty =>
    cases h
    rw [NameMap.override_empty _ empty, replace_document]
    exact ⟨rfl, copy⟩
  case isFalse =>
    split at h
    case h_2 => cases h
    case h_1 updated =>
      cases h
      rw [← copy.patched_diff]
      exact ⟨s.update_eq_ok updated, copy.written _⟩

theorem save_eq_error (s : Stored schema.name id)
    (hook : schema.beforeSave = Schema.writeUnchanged) (copy : r.IsCopy s.identity) {e : Error}
    (h : r.save schema (Store.connector env) s.store = (.error e, r', store')) :
    store' = s.store ∧ r' = r := by
  rw [Record.save_of_identified hook copy.identity_eq] at h
  split at h
  case isTrue => cases h
  case isFalse => split at h <;> cases h; exact ⟨rfl, rfl⟩

theorem isCopy_of_get (s : Stored schema.name id)
    (h : (schema.get (Store.connector env) id s.store).1 = .ok (some r)) : r.IsCopy s.identity := by
  have ⟨document, read, made⟩ := Schema.get_eq_some h
  have eq := s.eq_of_document read
  subst eq
  have adopted := (Record.ofFields_eq_ok_iff (NameMap.contains_of_get? s.id_held)).mp made
  obtain ⟨_, identity, derived, extended, rfl, id_held, key_eq, key_held⟩ :=
    Record.adopt_eq_ok adopted
  refine .of_clean (congrArg some ?_) extended.dirty
  cases s.id_held.symm.trans id_held
  have key_eq : identity.key = s.key := by
    rcases key_held with derived_eq | held
    · exact derived_eq.trans (s.keyOf_eq key_eq)
    · simpa using held.symm.trans s.key_held
  rw [Stored.identity, ← key_eq]

theorem isCopy_of_ofId (s : Stored schema.name id) (h : Record.ofId schema id = .ok r) :
    r.IsCopy s.identity := by
  unfold Record.ofId at h
  split at h <;> cases h
  case h_1 key key_eq =>
    refine .of_clean ?_ rfl
    rw [s.keyOf_eq key_eq]
    rfl

end Stored
end RecordStore
