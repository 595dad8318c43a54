import RecordStore.Proofs.Record.Lifecycle
import RecordStore.Proofs.Store.Identity

-- What a save that fails has done to the store. It has written nothing, except where the inserted
-- document comes back and the record cannot take it over.

namespace RecordStore

namespace Store

variable {store next : Store} {env : Environment} {name : String} {document stored : Fields}

def documents? (store : Store) (name : String) : Option (List Fields) :=
  (store.collections.get? name).map (·.documents)

-- An insertion that succeeds is answered by the stored document.
theorem connector_insert (env : Environment) (store : Store) (name : String) (document : Fields) :
    (connector env).query (.insert name document) store =
      match store.insert env name document with
      | (.ok stored, next) => (.ok [.ok (.object stored)], next)
      | (.error e, _) => (.error e, store) := by
  simp only [connector, Store.query, Query.insert]
  rcases inserted : store.insert env name document with ⟨e | stored, next⟩
  case error =>
    obtain rfl := store.insert_atomic env name document e next inserted
    rfl
  case ok => rfl

theorem connector_update (env : Environment) (store : Store) (name key : String) (patch : Fields) :
    (connector env).query (.update name key patch) store =
      match store.update name key patch with
      | (.ok (), next) => (.ok [], next)
      | (.error e, _) => (.error e, store) := by
  simp only [connector, Store.query, Query.update]
  rcases updated : store.update name key patch with ⟨e | _, next⟩
  case error =>
    obtain rfl := store.update_atomic name key patch e next updated
    rfl
  case ok => rfl

theorem documents?_insert (h : store.insert env name document = (.ok stored, next)) :
    ∃ documents, store.documents? name = some documents ∧
      next.documents? name = some (documents ++ [stored]) := by
  have ⟨c, c', held, inserted, eq⟩ := insert_eq_ok h
  have ⟨_, _, _, _, _, _, eq'⟩ := Collection.insert_eq_ok inserted
  exact ⟨c.documents, by simp [documents?, held], by simp [documents?, eq, eq']⟩

end Store

namespace Record

variable {schema : Schema} {env : Environment} {store : Store} {r r' : Record}
  {diff stored : Fields} {key : String}

-- What is needed of a difference, so that its document can be taken over once it is stored. A
-- store does not ask for it: any name will do for a collection, and only the ends of edges
-- have to be strings.
structure Adoptable (schema : Schema) (diff : Fields) : Prop where
  word : Id.isWord schema.name.toList
  ends : ∀ attr ∈ [fromAttribute, toAttribute], ∀ v, diff.get? attr = some v → ∃ s, v = .string s

-- The key and the id are strings anyway, since the store has set them itself.
theorem adopt_identify_isOk_iff (r : Record) (diff : Fields) (key_ne : key ≠ "") :
    (r.adopt schema (Collection.identify schema.name key diff)).1.isOk ↔ Adoptable schema diff := by
  have ends_eq : ∀ attr ∈ [fromAttribute, toAttribute],
      (Collection.identify schema.name key diff).get? attr = diff.get? attr := by
    intro attr mem
    have ne : attr ≠ idAttribute ∧ attr ≠ keyAttribute := by
      simp only [List.mem_cons, List.not_mem_nil, or_false] at mem
      rcases mem with rfl | rfl <;> decide
    exact Collection.get?_identify_of_ne schema.name key diff ne.1 ne.2
  have id_held := Collection.get?_identify_id schema.name key diff
  have key_held := Collection.get?_identify_key schema.name key diff
  rw [adopt_isOk_iff]
  constructor
  · rintro ⟨strings, id, key', held, key_eq⟩
    cases id_held.symm.trans held
    refine ⟨(Id.exists_keyOf_of_iff key_ne).mp ⟨key', key_eq⟩, fun attr mem v held => ?_⟩
    exact strings attr (.tail _ (.tail _ mem)) v ((ends_eq attr mem).trans held)
  · rintro ⟨word, ends⟩
    obtain ⟨key', key_eq⟩ := (Id.exists_keyOf_of_iff key_ne).mpr word
    refine ⟨fun attr mem v held => ?_, _, key', id_held, key_eq⟩
    rcases List.mem_cons.mp mem with rfl | mem
    · exact ⟨_, Option.some.inj (held.symm.trans id_held)⟩
    rcases List.mem_cons.mp mem with rfl | mem
    · exact ⟨_, Option.some.inj (held.symm.trans key_held)⟩
    · exact ends attr mem v ((ends_eq attr mem).symm.trans held)

theorem adopt_inserted_isOk_iff (legal : ∀ n, LegalKey (env.key n)) (r : Record)
    (h : store.insert env schema.name diff = (.ok stored, next)) :
    (r.adopt schema stored).1.isOk ↔ Adoptable schema diff := by
  have ⟨_, _, _, inserted, _⟩ := Store.insert_eq_ok h
  have ⟨_, key, chosen, _, eq, _⟩ := Collection.insert_eq_ok inserted
  rw [eq]
  exact adopt_identify_isOk_iff r diff (Collection.legalKey_of_chooseKey (legal _) chosen).1

theorem documentOf_stored (schema : Schema) (stored : Fields) :
    documentOf schema (.ok [.ok (.object stored)]) = .ok stored := by
  simp [documentOf, Except.bind, Cursor.first]

-- A store replies to an insertion with the document that it has stored.
theorem insert_of_reply {document : Fields}
    (answered : (Store.connector env).query (.insert schema.name diff) store = (answer, after))
    (reply : documentOf schema answer = .ok document) :
    store.insert env schema.name diff = (.ok document, after) := by
  rw [Store.connector_insert] at answered
  split at answered <;> cases answered
  case h_2 => cases reply
  case h_1 inserted =>
    rw [documentOf_stored] at reply
    cases reply
    exact inserted

-- The one case in which a save writes though it fails.
structure Lost (schema : Schema) (env : Environment) (r : Record) (store : Store)
    (diff stored : Fields)
    (next : Store) : Prop where
  unidentified : r.identity = none
  hook : schema.beforeSave r r.diff = .ok diff
  nonempty : ¬diff.isEmpty
  inserted : store.insert env schema.name diff = (.ok stored, next)
  not_adoptable : ¬Adoptable schema diff

-- A save that fails has either written nothing, or it has inserted a document that the record could
-- not take over.
theorem save_eq_error (legal : ∀ n, LegalKey (env.key n))
    (h : r.save schema (Store.connector env) store = (.error e, r', after)) :
    after = store ∨ ∃ diff stored, Lost schema env r store diff stored after := by
  have saved := r.saved schema (Store.connector env) store
  rw [h] at saved
  cases saved with
  | rejected => exact .inl rfl
  | notUpdated _ _ _ answered failed =>
    rw [Store.connector_update] at answered
    split at answered <;> cases answered
    case h_1 => cases failed
    case h_2 => exact .inl rfl
  | notInserted _ _ _ answered failed =>
    rw [Store.connector_insert] at answered
    split at answered <;> cases answered
    case h_1 => rw [documentOf_stored] at failed; cases failed
    case h_2 => exact .inl rfl
  | notAdopted hook nonempty unidentified answered reply failed =>
    -- The reply is checked only now that the document is stored.
    have inserted := insert_of_reply answered reply
    refine .inr ⟨_, _, unidentified, hook, nonempty, inserted, fun adoptable => ?_⟩
    have adopted := (adopt_inserted_isOk_iff legal r inserted).mpr adoptable
    rw [failed] at adopted
    cases adopted

-- In that case the save does fail, and the next one is an insertion again.
theorem Lost.save_eq (legal : ∀ n, LegalKey (env.key n))
    (lost : Lost schema env r store diff stored next) :
    ∃ e r', r.save schema (Store.connector env) store = (.error e, r', next) ∧
      r'.identity = none := by
  have key_none : r.key? = none := by simp [key?, lost.unidentified]
  have not_adopted := mt (adopt_inserted_isOk_iff legal r lost.inserted).mp lost.not_adoptable
  rcases adopted : r.adopt schema stored with ⟨e | ⟨⟩, r'⟩
  case ok => simp [adopted, Except.isOk, Except.toBool] at not_adopted
  case error =>
    refine ⟨e, r', ?_, (adopt_eq_error adopted).identity.trans lost.unidentified⟩
    simp only [save, lost.hook, if_neg lost.nonempty, key_none, insertInto_eq,
      Store.connector_insert, lost.inserted, documentOf_stored, adopted]

-- The ends of an edge are strings where a record sends them itself.
theorem Consistent.adoptable (consistent : r.Consistent schema)
    (word : Id.isWord schema.name.toList) :
    Adoptable schema r.diff := by
  refine ⟨word, fun attr mem v held => ?_⟩
  simp only [List.mem_cons, List.not_mem_nil, or_false] at mem
  have reserved : isReserved attr := by rcases mem with rfl | rfl <;> rfl
  have ne_key : attr ≠ keyAttribute := by rcases mem with rfl | rfl <;> decide
  cases identified : r.identity with
  | some identity =>
    rw [diff_of_identified identified, consistent.get?_changes_of_reserved reserved] at held
    cases held
  | none =>
    have sent : ∃ s? : Option String, s?.map Value.string = some v := by
      rw [consistent.get?_diff_of_reserved identified ne_key reserved] at held
      split at held
      case isTrue => exact ⟨r.source, held⟩
      case isFalse =>
        split at held
        case isTrue => exact ⟨r.target, held⟩
        case isFalse => cases held
    obtain ⟨s?, sent⟩ := sent
    obtain ⟨s, _, eq⟩ := Option.map_eq_some_iff.mp sent
    exact ⟨s, eq.symm⟩

-- So no save of such a record fails after it has written, if differences are written as they are
-- and the name of the collection is a word.
theorem Consistent.store_of_failed_save (consistent : r.Consistent schema)
    (legal : ∀ n, LegalKey (env.key n))
    (hook : schema.beforeSave = Schema.writeUnchanged) (word : Id.isWord schema.name.toList)
    (h : r.save schema (Store.connector env) store = (.error e, r', after)) : after = store := by
  rcases save_eq_error legal h with eq | ⟨diff, stored, lost⟩
  · exact eq
  · have written := lost.hook
    rw [hook] at written
    cases written
    exact absurd (consistent.adoptable word) lost.not_adoptable

-- A save can fail though it has written, and it does so exactly if it inserts what cannot be taken
-- over. Without a hook that is no matter of the record, but of the name of its collection alone.
theorem failed_save_wrote_iff (legal : ∀ n, LegalKey (env.key n)) (schema : Schema) (r : Record)
    (store : Store) :
    let outcome := r.save schema (Store.connector env) store
    ((¬outcome.1.isOk ∧ ∃ name, outcome.2.2.documents? name ≠ store.documents? name) ↔
      ∃ diff stored next, Lost schema env r store diff stored next) ∧
    (r.Consistent schema → schema.beforeSave = Schema.writeUnchanged →
      Id.isWord schema.name.toList → ¬outcome.1.isOk → outcome.2.2 = store) := by
  intro outcome
  refine ⟨⟨?_, ?_⟩, fun consistent hook word failed => ?_⟩
  · rcases eq : outcome with ⟨_ | ⟨⟩, r', after⟩
    case ok => exact fun ⟨failed, _⟩ => absurd rfl failed
    case error e =>
      intro ⟨_, name, differ⟩
      rcases save_eq_error legal eq with rfl | ⟨diff, stored, lost⟩
      · exact absurd rfl differ
      · exact ⟨diff, stored, after, lost⟩
  · intro ⟨diff, stored, next, lost⟩
    have ⟨e, r', eq, _⟩ := lost.save_eq legal
    have ⟨documents, before, more⟩ := Store.documents?_insert lost.inserted
    simp only [outcome, eq]
    exact ⟨nofun, schema.name, by simp [before, more]⟩
  · rcases eq : outcome with ⟨_ | ⟨⟩, r', after⟩
    case ok => exact absurd (eq ▸ rfl) failed
    case error e => exact consistent.store_of_failed_save legal hook word eq

-- A hook makes a document of what looks like the end of an edge.
theorem failed_save_wrote_iff_of_hook :
    let env : Environment := ⟨fun _ => "k", fun _ => none⟩
    let schema : Schema :=
      ⟨"a", .document, [], fun _ diff => .ok (diff.insert "_from" (.bool true))⟩
    let store := ((Store.connector env).createCollection "a" .document .empty).2
    let outcome := Record.empty.save schema (Store.connector env) store
    ¬outcome.1.isOk ∧ ∃ name, outcome.2.2.documents? name ≠ store.documents? name := by
  intro env schema store outcome
  have legal : ∀ n, LegalKey (env.key n) := fun _ => by simp [env, LegalKey]
  refine (failed_save_wrote_iff legal schema .empty store).1.mpr
    ⟨_, _, _, rfl, rfl, by decide +kernel, rfl, ?_⟩
  intro adoptable
  obtain ⟨s, eq⟩ := adoptable.ends "_from" (by decide +kernel) (.bool true) rfl
  cases eq

-- The name of this collection is no word. Each attempt to save the record fails,
-- and stores another document.
theorem failed_save_stored_of_hyphen :
    let conn := Store.connector ⟨fun n => if n = 0 then "k" else "l", fun _ => none⟩
    let schema : Schema := ⟨"my-items", .document, [], Schema.writeUnchanged⟩
    let store := (conn.createCollection "my-items" .document .empty).2
    ∃ r, ofReference schema (.fields (.ofList [("a", .null)])) = .ok r ∧
      let first := r.save schema conn store
      let second := first.2.1.save schema conn first.2.2
      ¬first.1.isOk ∧ ¬second.1.isOk ∧
        (store.documents? "my-items").map List.length = some 0 ∧
        (first.2.2.documents? "my-items").map List.length = some 1 ∧
        (second.2.2.documents? "my-items").map List.length = some 2 := by
  intro conn schema store
  refine ⟨_, rfl, ?_⟩
  decide +kernel

end Record
end RecordStore
