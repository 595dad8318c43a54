import RecordStore.Proofs.Record.FailedSave
import RecordStore.Proofs.Store.Journal

namespace RecordStore

variable {schema : Schema} {env : Environment} {store after : Store} {id key : String}
variable {document : Fields}

-- The id and the key belong to one document of the collection.
def Identity.IsOf (identity : Identity) (name : String) : Prop :=
  identity.id = Id.of name identity.key

-- Whether there is another key beside the id than the one in it.
def Reference.Contradicts (name : String) : Reference → Prop
  | .id _ => False
  | .fields document => ∃ id key, document.get? idAttribute = some (.string id) ∧
      document.get? keyAttribute = some (.string key) ∧ id ≠ Id.of name key

theorem Reference.not_contradicts_of_held {name : String} {document : Fields}
    (key_held : document.get? keyAttribute = some (.string key))
    (id_held : document.get? idAttribute = some (.string (Id.of name key))) :
    ¬(Reference.fields document).Contradicts name := by
  rintro ⟨_, _, id_held', key_held', ne⟩
  cases key_held.symm.trans key_held'
  cases id_held.symm.trans id_held'
  exact ne rfl

-- To read an id is to look for its key.
theorem Schema.readDocument_of_keyOf (h : schema.keyOf id = .ok key) (env : Environment)
    (store : Store) :
    schema.readDocument (Store.connector env) id store =
      (.ok (store.held? schema.name key), store) := by
  have not_empty : ¬id.isEmpty := by simp [Id.eq_of_keyOf h, Id.of]
  have answer : (Store.connector env).query (.document schema.name id) store =
      (.ok [.ok (store.document schema.name id)], store) := rfl
  simp only [readDocument, if_neg not_empty, h, answer,
    store.document_of_split? (Id.keyOf_eq_ok_iff.mp h)]
  cases store.held? schema.name key with
  | none => rfl
  | some document => simp [Except.bind, Cursor.first]

namespace Plan

-- Documents are filtered, sorted and cut, but none is made up.
theorem mem_of_select {plan : Plan} {documents selected : List Fields}
    (h : plan.select env documents = .ok selected) (mem : document ∈ selected) :
    document ∈ documents := by
  have ⟨patterns, _, h⟩ := bind_eq_ok_iff.mp h
  cases h
  have sorted : document ∈ sortDocuments plan.sorts (documents.filter (plan.holds patterns)) := by
    unfold Window.apply at mem
    split at mem
    case h_1 w => exact List.mem_of_mem_drop (List.mem_of_mem_take mem)
    case h_2 => exact mem
  exact List.mem_of_mem_filter ((List.mergeSort_perm ..).subset sorted)

end Plan

namespace Store

variable {q : Query}

-- The objects in an answer are documents of the collection, or else the document
-- that has been inserted.
theorem mem_of_query (h : store.query env q = (.ok items, after)) (mem : .object document ∈ items) :
    (∃ c, store.collections.get? q.collection = some c ∧ document ∈ c.documents) ∨
      ∃ key given, document = Collection.identify q.collection key given := by
  unfold Store.query at h
  split at h
  case h_1 plan statement =>
    obtain ⟨items, found, rfl⟩ := map_eq_ok_iff.mp (congrArg Prod.fst h)
    have ⟨c, held, selected⟩ := bind_eq_ok_iff.mp found
    obtain ⟨document, listed, eq⟩ := List.mem_map.mp mem
    cases eq
    exact .inl ⟨c, collection_eq_ok_iff.mp held, plan.mem_of_select selected listed⟩
  case h_2 sorts statement =>
    obtain ⟨items, found, rfl⟩ := map_eq_ok_iff.mp (congrArg Prod.fst h)
    have ⟨c, held, sorted⟩ := bind_eq_ok_iff.mp found
    cases sorted
    obtain ⟨document, listed, eq⟩ := List.mem_map.mp mem
    cases eq
    exact .inl ⟨c, collection_eq_ok_iff.mp held, (List.mergeSort_perm ..).subset listed⟩
  case h_3 id statement =>
    cases h
    have read : store.document q.collection id = .object document :=
      (List.mem_singleton.mp mem).symm
    have ⟨_, c, _, held, found⟩ := document_eq_object read
    exact .inl ⟨c, held, List.mem_of_find?_eq_some found⟩
  case h_4 given statement =>
    rcases inserted : store.insert env q.collection given with ⟨_ | stored, next⟩ <;>
      rw [inserted] at h <;> cases h
    have ⟨_, key, _, _, _, stored_eq, _⟩ := insert_eq_stored inserted
    cases List.mem_singleton.mp mem
    exact .inr ⟨key, given, stored_eq⟩
  case h_5 | h_6 =>
    obtain ⟨_, _, rfl⟩ := map_eq_ok_iff.mp (congrArg Prod.fst h)
    cases mem

-- In each of them, the id and the key belong together.
theorem not_contradicts_of_query {cursor : Cursor} (reachable : store.Reachable)
    (h : (connector env).query q store = (.ok cursor, after))
    (mem : .ok (.object document) ∈ cursor) :
    ¬(Reference.fields document).Contradicts q.collection := by
  obtain ⟨items, answered, rfl⟩ := connector_query_eq_ok h
  rcases mem_of_query answered (by simpa using mem) with
    ⟨c, held, stored⟩ | ⟨key, given, rfl⟩
  · have identified := Collection.identified_preserved.of_reachable reachable q.collection c held
    have ⟨_, _, key_held, id_held⟩ := identified.identity document stored
    exact Reference.not_contradicts_of_held key_held id_held
  · exact Reference.not_contradicts_of_held (Collection.get?_identify_key ..)
      (Collection.get?_identify_id ..)

end Store

namespace Record

variable {r r' : Record} {identity : Identity} {diff : Fields}

-- A record that has been inserted has taken over the stored document.
theorem inserted_of_save (unidentified : r.identity = none)
    (hook : schema.beforeSave r r.diff = .ok diff) (nonempty : ¬diff.isEmpty)
    (h : r.save schema (Store.connector env) store = (.ok (), r', after)) :
    ∃ stored adopted, store.insert env schema.name diff = (.ok stored, after) ∧
      r.adopt schema stored = (.ok (), adopted) ∧ r' = adopted.written diff := by
  have saved := r.saved schema (Store.connector env) store
  rw [h] at saved
  cases saved with
  | skipped hook' empty =>
    cases hook.symm.trans hook'
    exact absurd empty nonempty
  | updated _ _ identified => cases unidentified.symm.trans identified
  | inserted hook' _ _ answered reply adopted =>
    cases hook.symm.trans hook'
    exact ⟨_, _, insert_of_reply answered reply, adopted, rfl⟩

theorem updated_of_save (identified : r.identity = some identity)
    (hook : schema.beforeSave r r.diff = .ok diff) (nonempty : ¬diff.isEmpty)
    (h : r.save schema (Store.connector env) store = (.ok (), r', after)) :
    store.update schema.name identity.key diff = (.ok (), after) ∧ r' = r.written diff := by
  have saved := r.saved schema (Store.connector env) store
  rw [h] at saved
  cases saved with
  | skipped hook' empty =>
    cases hook.symm.trans hook'
    exact absurd empty nonempty
  | inserted _ _ unidentified => cases unidentified.symm.trans identified
  | updated hook' _ identified' answered =>
    cases hook.symm.trans hook'
    cases identified.symm.trans identified'
    rw [Store.connector_update] at answered
    split at answered <;> cases answered
    case h_1 updated => exact ⟨updated, rfl⟩

-- A store makes the id of a document out of its key.
theorem identity_of_adopt_identify
    (h : r.adopt schema (Collection.identify schema.name key diff) = (.ok (), r')) :
    r'.identity = some ⟨Id.of schema.name key, key⟩ := by
  have ⟨id, derived, id_held, _, eq⟩ := identity_of_adopt h
  cases id_held.symm.trans (Collection.get?_identify_id schema.name key diff)
  rw [eq, Collection.get?_identify_key]
  rfl

-- What a record with an identity is built from may contradict itself, and nothing else
-- is wrong with it.
theorem isOf_iff_of_ofReference {reference : Reference} (h : ofReference schema reference = .ok r)
    (identified : r.identity = some identity) :
    identity.IsOf schema.name ↔ ¬reference.Contradicts schema.name := by
  cases reference with
  | id id =>
    simp only [ofReference, ofId] at h
    split at h <;> cases h
    case h_1 key key_eq =>
      cases identified
      exact iff_of_true (Id.eq_of_keyOf key_eq) not_false
  | fields document =>
    simp only [ofReference, ofFields] at h
    split at h
    case isFalse => cases (Consistent.empty.foldlM_takeNew rfl h).2.symm.trans identified
    case isTrue =>
      split at h <;> cases h
      case h_1 adopted =>
        obtain ⟨id, derived, id_held, key_eq, eq⟩ := identity_of_adopt adopted
        have id_eq : id = Id.of schema.name derived := Id.eq_of_keyOf key_eq
        cases identified.symm.trans eq
        cases held : (document.get? keyAttribute).bind Value.string? with
        | none =>
          refine iff_of_true id_eq ?_
          rintro ⟨_, _, _, key_held, _⟩
          simp [key_held, Value.string?] at held
        | some key =>
          obtain ⟨v, key_held, string⟩ := Option.bind_eq_some_iff.mp held
          cases v <;> cases string
          constructor
          · intro isOf
            exact Reference.not_contradicts_of_held key_held (isOf ▸ id_held)
          · intro consistent
            by_contra ne
            exact consistent ⟨id, key, id_held, key_held, ne⟩

-- Fields without an id cannot contradict themselves.
theorem not_contradicts_of_unidentified {reference : Reference}
    (h : ofReference schema reference = .ok r) (unidentified : r.identity = none) :
    ¬reference.Contradicts schema.name := by
  cases reference with
  | id id => exact not_false
  | fields document =>
    rintro ⟨id, _, id_held, _⟩
    have adopted := (ofFields_eq_ok_iff (NameMap.contains_of_get? id_held)).mp h
    exact identified_of_adopt adopted unidentified

-- Saves give a record the identity of an inserted document, and no other call gives it any.
theorem isOf_of_call (isOf : ∀ identity, r.identity = some identity → identity.IsOf schema.name)
    (env : Environment) (store : Store) (c : Call)
    (identified : (r.call schema (Store.connector env) store c).2.1.identity = some identity) :
    identity.IsOf schema.name := by
  rcases r.call_identity schema (Store.connector env) store c with
    eq | ⟨unidentified, rfl, ok, diff, _, hook, nonempty, _⟩
  · exact isOf identity (eq.symm.trans identified)
  · rcases saved : r.save schema (Store.connector env) store with ⟨result, r', after⟩
    rw [saved] at ok
    cases ok
    have ⟨stored, adopted, inserted, taken, eq⟩ := inserted_of_save unidentified hook nonempty saved
    have ⟨_, key, _, _, _, stored_eq, _⟩ := Store.insert_eq_stored inserted
    rw [stored_eq] at taken
    rw [call, saved, eq] at identified
    cases (identity_of_adopt_identify taken).symm.trans identified
    rfl

theorem isOf_of_run (isOf : ∀ identity, r.identity = some identity → identity.IsOf schema.name)
    (env : Environment) (calls : List (Store × Call))
    (identified : (r.run schema (Store.connector env) calls).identity = some identity) :
    identity.IsOf schema.name := by
  induction calls generalizing r with
  | nil => exact isOf identity identified
  | cons c calls ih => exact ih (fun _ => isOf_of_call isOf env c.1 c.2) identified

theorem isOf_iff_of_run {reference : Reference} {built : Record}
    (h : ofReference schema reference = .ok built) (env : Environment)
    (calls : List (Store × Call))
    (identified : (built.run schema (Store.connector env) calls).identity = some identity) :
    identity.IsOf schema.name ↔ ¬reference.Contradicts schema.name := by
  cases first : built.identity with
  | none =>
    have isOf : ∀ identity, built.identity = some identity → identity.IsOf schema.name := by
      simp [first]
    exact iff_of_true (isOf_of_run isOf env calls identified)
      (not_contradicts_of_unidentified h first)
  | some identity' =>
    cases (run_identity first schema _ calls).symm.trans identified
    exact isOf_iff_of_ofReference h first

-- To refresh a record is to look for the key in its id.
theorem refresh_of_keyOf (identified : r.identity = some identity)
    (key_eq : schema.keyOf identity.id = .ok key) (env : Environment) (store : Store) :
    r.refresh schema (Store.connector env) store =
      match store.held? schema.name key with
      | some document => (.ok (), r.refreshed document, store)
      | none => (.ok (), r, store) := by
  have id_eq : r.id? = some identity.id := by simp [id?, identified]
  simp only [refresh, id_eq, Schema.readDocument_of_keyOf key_eq]
  cases store.held? schema.name key <;> rfl

-- The id of a record is made of its key, so that what is saved is what is read when the record
-- is refreshed. The only exception are records that are built from fields with another key
-- beside the id: what they save makes no difference to what they read. No answer of a store has
-- such fields in it.
theorem id_made_of_key_iff {reference : Reference} {built : Record}
    (h : ofReference schema reference = .ok built) {calls : List (Store × Call)}
    (run_eq : built.run schema (Store.connector env) calls = r) :
    (∀ identity, r.identity = some identity →
      (identity.id = schema.name ++ "/" ++ identity.key ↔ ¬reference.Contradicts schema.name) ∧
      ∀ store diff r' after, store.Reachable → schema.beforeSave r r.diff = .ok diff →
        ¬diff.isEmpty → r.save schema (Store.connector env) store = (.ok (), r', after) →
        ∃ document, store.held? schema.name identity.key = some document ∧
          after.held? schema.name identity.key = some (Collection.patched document diff) ∧
          (¬reference.Contradicts schema.name →
            r.refresh schema (Store.connector env) store = (.ok (), r.refreshed document, store) ∧
            r'.refresh schema (Store.connector env) after =
              (.ok (), r'.refreshed (Collection.patched document diff), after)) ∧
          (reference.Contradicts schema.name →
            (r.refresh schema (Store.connector env) after).2.1 =
              (r.refresh schema (Store.connector env) store).2.1)) ∧
    ∀ store q cursor after document, store.Reachable → q.collection = schema.name →
      (Store.connector env).query q store = (.ok cursor, after) → .ok (.object document) ∈ cursor →
      ¬(Reference.fields document).Contradicts schema.name := by
  subst run_eq
  refine ⟨fun identity identified => ?_,
    fun store q cursor after document reachable eq answered mem => ?_⟩
  · have isOf_iff : identity.IsOf schema.name ↔ ¬reference.Contradicts schema.name :=
      isOf_iff_of_run h env calls identified
    refine ⟨isOf_iff, fun store diff r' after reachable hook nonempty saved => ?_⟩
    have ⟨updated, saved_eq⟩ := updated_of_save identified hook nonempty saved
    have ⟨document, before, patched, others⟩ := Store.held?_of_update reachable updated
    have consistent := (Consistent.ofReference h).run (Store.connector env) calls
    have ⟨_, key, key_eq⟩ := consistent.settled identity identified
    have id_eq : identity.id = Id.of schema.name key := Id.eq_of_keyOf key_eq
    have identified' : r'.identity = some identity := by rw [saved_eq]; exact identified
    refine ⟨document, before, patched, fun consistent => ?_, fun contradicts => ?_⟩
    · have key_same : key = identity.key :=
        Id.of_inj.mp (id_eq.symm.trans (isOf_iff.mpr consistent))
      rw [refresh_of_keyOf identified key_eq, refresh_of_keyOf identified' key_eq, key_same, before,
        patched]
      exact ⟨rfl, rfl⟩
    · have key_ne : key ≠ identity.key := fun eq =>
        isOf_iff.mp (by rw [Identity.IsOf, id_eq, eq]) contradicts
      rw [refresh_of_keyOf identified key_eq, refresh_of_keyOf identified key_eq, others key key_ne]
      cases store.held? schema.name key <;> rfl
  · exact eq ▸ Store.not_contradicts_of_query reachable answered mem

-- The record asks for a key, gets it with its insertion, and is saved once more after that.
theorem id_made_of_key_iff_of_asked :
    let env : Environment := ⟨fun _ => "k", fun _ => none⟩
    let schema : Schema := ⟨"a", .document, [], Schema.writeUnchanged⟩
    let fields := NameMap.ofList [("_key", .string "l"), ("x", .string "1")]
    let created := Store.empty.after env (.createCollection "a" .document)
    let store := created.after env (.query (.insert "a" fields))
    let calls := [(created, .save), (store, .set "x" (.string "2"))]
    ∃ built r r' after document, ofReference schema (.fields fields) = .ok built ∧
      built.run schema (Store.connector env) calls = r ∧
      r.save schema (Store.connector env) store = (.ok (), r', after) ∧
      r.identity = some ⟨"a/l", "l"⟩ ∧ "a/l" = "a" ++ "/" ++ "l" ∧
      store.held? "a" "l" = some document ∧
      r'.refresh schema (Store.connector env) after =
        (.ok (), r'.refreshed (Collection.patched document r.diff), after) := by
  intro env schema fields created store calls
  have legal : ∀ n, LegalKey (env.key n) := fun _ => by simp [env, LegalKey]
  have reachable : store.Reachable := (Store.Reachable.empty.after legal _).after legal _
  obtain ⟨built, is_built⟩ : ∃ built, ofReference schema (.fields fields) = .ok built := ⟨_, rfl⟩
  have made : "a/l" = "a" ++ "/" ++ "l" := by decide +kernel
  obtain ⟨r, run_eq⟩ : ∃ r, built.run schema (Store.connector env) calls = r := ⟨_, rfl⟩
  have computed : r.identity = some ⟨"a/l", "l"⟩ ∧ ¬r.diff.isEmpty ∧
      (r.save schema (Store.connector env) store).1.isOk := by
    cases is_built
    subst run_eq
    decide +kernel
  rcases saved : r.save schema (Store.connector env) store with ⟨result, r', after⟩
  rw [saved] at computed
  obtain ⟨identified, nonempty, ok⟩ := computed
  cases eq_ok_of_isOk ok
  obtain ⟨made_iff, saves⟩ := (id_made_of_key_iff is_built run_eq).1 _ identified
  obtain ⟨document, held, _, agree, _⟩ := saves store r.diff r' after reachable rfl nonempty saved
  obtain ⟨_, refreshed⟩ := agree (made_iff.mp made)
  exact ⟨built, r, r', after, document, is_built, run_eq, saved, identified, made, held, refreshed⟩

-- What the record saves goes to one document, and what it then reads again comes from the other.
theorem id_of_other_document :
    let conn := Store.connector ⟨fun _ => "k", fun _ => none⟩
    let schema : Schema := ⟨"items", .document, [], Schema.writeUnchanged⟩
    let store := (conn.importDocuments "items" [
      .ofList [("_key", .string "a"), ("x", .string "1")],
      .ofList [("_key", .string "b"), ("x", .string "2")]]
      (conn.createCollection "items" .document .empty).2).2
    let built := ofReference schema <| .fields <| .ofList
      [("_id", .string "items/a"), ("_key", .string "b"), ("x", .string "1")]
    let r := (built.toOption.getD .empty).run schema conn [(store, .set "x" (.string "3"))]
    let saved := r.save schema conn store
    let refreshed := saved.2.1.refresh schema conn saved.2.2
    let x := fun key => ((saved.2.2.held? "items" key).bind (·.get? "x")).bind Value.string?
    built.isOk ∧ r.identity = some ⟨"items/a", "b"⟩ ∧ "items/a" ≠ "items" ++ "/" ++ "b" ∧
      saved.1.isOk ∧ refreshed.1.isOk ∧ x "a" = some "1" ∧ x "b" = some "3" ∧
      (refreshed.2.1.fields.get? "x").bind Value.string? = some "1" := by
  decide +kernel

end Record
end RecordStore
