import RecordStore.Proofs.Id
import RecordStore.Proofs.Record.Adoption
import RecordStore.Proofs.Store.Reachable
import RecordStore.Schema.Access

namespace RecordStore

variable {schema : Schema} {env : Environment} {store : Store} {r r' : Record} {id : String}

-- A document is read under its own id.
theorem Store.document_eq_object {name : String} {document : Fields}
    (h : store.document name id = .object document) :
    ∃ key c, id = Id.of name key ∧ store.collections.get? name = some c ∧
      c.find? key = some document := by
  unfold Store.document at h
  split at h
  case h_1 => cases h
  case h_2 owner key split =>
    split at h
    case isTrue => cases h
    case isFalse own =>
      have eq : owner = name := Decidable.not_not.mp own
      subst eq
      split at h
      case h_2 => cases h
      case h_1 document found =>
        have ⟨c, held, found⟩ := Option.bind_eq_some_iff.mp found
        cases h
        exact ⟨key, c, Id.eq_of_split? split, held, found⟩

namespace Schema

-- Reading changes nothing.
theorem readDocument_state (schema : Schema) (env : Environment) (id : String) (store : Store) :
    (schema.readDocument (Store.connector env) id store).2 = store := by
  unfold readDocument
  split
  · rfl
  · split <;> rfl

theorem readDocument_eq_some (env : Environment)
    (h : (schema.readDocument (Store.connector env) id store).1 = .ok (some document)) :
    store.document schema.name id = .object document := by
  unfold readDocument at h
  split at h
  case isTrue => cases h
  case isFalse =>
    split at h
    case h_1 => cases h
    case h_2 =>
      simp only [Store.connector, Store.query, Query.document, Except.map,
        List.map_cons, List.map_nil, Except.bind, Cursor.first] at h
      split at h <;> cases h
      case h_4 eq => exact Option.some.inj eq

theorem get_state (schema : Schema) (env : Environment) (id : String) (store : Store) :
    (schema.get (Store.connector env) id store).2 = store :=
  schema.readDocument_state env id store

theorem get_eq_some (h : (schema.get (Store.connector env) id store).1 = .ok (some r)) :
    ∃ document, store.document schema.name id = .object document ∧
      Record.ofFields schema document = .ok r := by
  have ⟨document?, read, h⟩ := bind_eq_ok_iff.mp h
  cases document? with
  | none => cases h
  | some document =>
    have ⟨r', made, h⟩ := bind_eq_ok_iff.mp h
    cases h
    exact ⟨document, readDocument_eq_some env read, made⟩

end Schema

namespace Record

-- An assignment to a field that holds the same value is dropped, and any other one is made.
theorem set_of_free (r : Record) (free : ¬isReserved name) (v : Value) :
    ((∃ held, r.fields.get? name = some held ∧ held.same v) ∧ r.set name v = .ok (false, r)) ∨
    ((∀ held, r.fields.get? name = some held → ¬held.same v) ∧
      r.set name v = .ok (true, (r.setField name v).markDirty name)) := by
  rw [set, if_neg free]
  split
  case isTrue same => exact .inl ⟨(Option.any_eq_true _ _).mp same, rfl⟩
  case isFalse other =>
    have differ (held) (found : r.fields.get? name = some held) (same : held.same v) : False :=
      other ((Option.any_eq_true _ _).mpr ⟨held, found, same⟩)
    exact .inr ⟨differ, rfl⟩

theorem free_of_set (h : r.set name v = .ok outcome) : ¬isReserved name := by
  intro reserved
  rw [set, if_pos reserved] at h
  cases h

-- An assignment does not touch reserved fields, nor anything else than the one field.
theorem set_eq_ok (h : r.set field value = .ok (changed, r')) :
    r' = r ∨ (¬isReserved field ∧ r' = (r.setField field value).markDirty field) := by
  have free := free_of_set h
  rcases r.set_of_free free value with ⟨_, eq⟩ | ⟨_, eq⟩ <;> cases eq.symm.trans h
  · exact .inl rfl
  · exact .inr ⟨free, rfl⟩

theorem contains_changes :
    r.changes.contains name ↔ r.fields.contains name ∧ r.dirty.contains name :=
  r.fields.contains_filter r.dirty.contains name

theorem get?_insertIfSome (fields : Fields) (name : String) (s? : Option String) (other : String) :
    (insertIfSome fields name s?).get? other =
      if other = name then (s?.map .string).or (fields.get? other) else fields.get? other := by
  cases s? with
  | none => simp [insertIfSome]
  | some s => simp [insertIfSome, NameMap.get?_insert]

theorem diff_of_identified {identity : Identity} (identified : r.identity = some identity) :
    r.diff = r.changes := by
  simp [diff, isIdentified, identified]

-- To save a record that has an identity is to update the store by its key, if there is
-- anything to be written.
theorem save_of_identified {identity : Identity} (hook : schema.beforeSave = Schema.writeUnchanged)
    (identified : r.identity = some identity) (env : Environment) (store : Store) :
    r.save schema (Store.connector env) store =
      if r.diff.isEmpty then (.ok (), r, store)
      else match store.update schema.name identity.key r.diff with
        | (.ok (), after) => (.ok (), r.written r.diff, after)
        | (.error e, _) => (.error e, r, store) := by
  have key : r.key? = some identity.key := by simp [key?, identified]
  simp only [save, hook, Schema.writeUnchanged, key, updateIn, Store.connector, Store.query,
    Query.update]
  rcases updated : store.update schema.name identity.key r.diff with ⟨e | _, after⟩
  case error =>
    obtain rfl := store.update_atomic schema.name identity.key r.diff e after updated
    rfl
  case ok => rfl

-- The stored document that an insertion is answered with.
def documentOf (schema : Schema) (answer : Except Error Cursor) : Except Error Fields :=
  match answer.bind Cursor.first with
  | .error e => .error e
  | .ok none => .error (.missingReply schema.name)
  | .ok (some (.object document)) => .ok document
  | .ok (some v) => .error (.replyType schema.name v.typeName)

theorem documentOf_eq_ok {answer : Except Error Cursor}
    (h : documentOf schema answer = .ok document) :
    ∃ cursor, answer = .ok cursor ∧ cursor.first = .ok (some (.object document)) := by
  cases answer with
  | error e => cases h
  | ok cursor =>
    simp only [documentOf, Except.bind] at h
    split at h <;> cases h
    case h_3 first => exact ⟨cursor, rfl, first⟩

-- All that saving a record can do, to the record and to the connector.
inductive Saved (schema : Schema) (conn : Connector σ) (r : Record) (s : σ) :
    Except Error Unit × Record × σ → Prop
  | rejected {e} (hook : schema.beforeSave r r.diff = .error e) :
    Saved schema conn r s (.error e, r, s)
  | skipped {diff} (hook : schema.beforeSave r r.diff = .ok diff) (empty : diff.isEmpty) :
    Saved schema conn r s (.ok (), r, s)
  | updated {diff identity cursor items s'} (hook : schema.beforeSave r r.diff = .ok diff)
    (nonempty : ¬diff.isEmpty) (identified : r.identity = some identity)
    (answered : conn.query (.update schema.name identity.key diff) s = (.ok cursor, s'))
    (read : cursor.toList = .ok items) : Saved schema conn r s (.ok (), r.written diff, s')
  | notUpdated {diff identity answer s' e} (hook : schema.beforeSave r r.diff = .ok diff)
    (nonempty : ¬diff.isEmpty) (identified : r.identity = some identity)
    (answered : conn.query (.update schema.name identity.key diff) s = (answer, s'))
    (failed : answer.bind Cursor.toList = .error e) : Saved schema conn r s (.error e, r, s')
  | inserted {diff answer document r' s'} (hook : schema.beforeSave r r.diff = .ok diff)
    (nonempty : ¬diff.isEmpty) (unidentified : r.identity = none)
    (answered : conn.query (.insert schema.name diff) s = (answer, s'))
    (reply : documentOf schema answer = .ok document)
    (adopted : r.adopt schema document = (.ok (), r')) :
    Saved schema conn r s (.ok (), r'.written diff, s')
  | notInserted {diff answer s' e} (hook : schema.beforeSave r r.diff = .ok diff)
    (nonempty : ¬diff.isEmpty) (unidentified : r.identity = none)
    (answered : conn.query (.insert schema.name diff) s = (answer, s'))
    (failed : documentOf schema answer = .error e) : Saved schema conn r s (.error e, r, s')
  | notAdopted {diff answer document r' s' e} (hook : schema.beforeSave r r.diff = .ok diff)
    (nonempty : ¬diff.isEmpty) (unidentified : r.identity = none)
    (answered : conn.query (.insert schema.name diff) s = (answer, s'))
    (reply : documentOf schema answer = .ok document)
    (failed : r.adopt schema document = (.error e, r')) : Saved schema conn r s (.error e, r', s')

-- An insertion fails to be answered by a document, or else the document is taken over.
theorem insertInto_eq (schema : Schema) (conn : Connector σ) (r : Record) (diff : Fields) (s : σ) :
    r.insertInto schema conn diff s =
      match conn.query (.insert schema.name diff) s with
      | (answer, s') =>
        match documentOf schema answer with
        | .error e => (.error e, r, s')
        | .ok document =>
          match r.adopt schema document with
          | (.ok (), r') => (.ok (), r'.written diff, s')
          | (.error e, r') => (.error e, r', s') := by
  unfold insertInto
  rcases conn.query (.insert schema.name diff) s with ⟨_ | cursor, s'⟩
  case error => rfl
  case ok =>
    simp only [documentOf, Except.bind]
    rcases cursor.first with _ | _ | item
    case error => rfl
    case none => rfl
    case some =>
      cases item with
      | object document =>
        simp only [takeReply]
        split <;> simp_all
      | _ => rfl

theorem saved (schema : Schema) (conn : Connector σ) (r : Record) (s : σ) :
    Saved schema conn r s (r.save schema conn s) := by
  unfold save
  split
  case h_1 e hook => exact .rejected hook
  case h_2 diff hook =>
    split
    case isTrue empty => exact .skipped hook empty
    case isFalse nonempty =>
      split
      case h_1 no_key =>
        have unidentified : r.identity = none := Option.map_eq_none_iff.mp no_key
        rw [insertInto_eq]
        rcases answered : conn.query (.insert schema.name diff) s with ⟨answer, s'⟩
        dsimp only
        split
        case h_1 e failed => exact .notInserted hook nonempty unidentified answered failed
        case h_2 document reply =>
          split
          case h_1 adopted => exact .inserted hook nonempty unidentified answered reply adopted
          case h_2 failed => exact .notAdopted hook nonempty unidentified answered reply failed
      case h_2 key has_key =>
        obtain ⟨identity, identified, key_eq⟩ := Option.map_eq_some_iff.mp has_key
        subst key_eq
        unfold updateIn
        split
        case h_1 e s' answered => exact .notUpdated hook nonempty identified answered rfl
        case h_2 cursor s' answered =>
          split
          case h_1 e failed => exact .notUpdated hook nonempty identified answered failed
          case h_2 items read => exact .updated hook nonempty identified answered read

theorem refresh_state (schema : Schema) (env : Environment) (r : Record) (store : Store) :
    (r.refresh schema (Store.connector env) store).2.2 = store := by
  have state := schema.readDocument_state env
  unfold refresh
  split
  · rfl
  · split <;> simp_all [Prod.ext_iff]

-- What refreshing can do to a record.
theorem refresh_record (schema : Schema) (conn : Connector σ) (r : Record) (s : σ) :
    (r.refresh schema conn s).2.1 = r ∨
      ∃ document, (r.refresh schema conn s).2.1 = r.refreshed document := by
  unfold refresh
  split
  · exact .inl rfl
  · split
    · exact .inl rfl
    · exact .inl rfl
    · exact .inr ⟨_, rfl⟩

end Record
end RecordStore
