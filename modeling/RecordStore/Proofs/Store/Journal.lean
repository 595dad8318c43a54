import RecordStore.Proofs.Id
import RecordStore.Proofs.Store.Effect

-- What is looked up in a store is what has been written last: the journal of a run of operations
-- decides about every document.

namespace RecordStore

-- The documents among the items of an answer.
def Cursor.documents (cursor : Cursor) : List Fields :=
  cursor.filterMap fun item => match item with
    | .ok (.object document) => some document
    | _ => none

namespace Collection

-- Patches leave all keys as they are.
theorem find?_update (c : Collection) (patch : Fields) (changed key : String) :
    Collection.find? { c with
      documents := c.documents.map fun document =>
        if hasKey document changed then patched document patch else document } key =
      if changed = key then (c.find? key).map (patched · patch) else c.find? key := by
  have same_key : ∀ document, hasKey (if hasKey document changed then patched document patch
      else document) key = hasKey document key := by
    intro document
    split
    · simp [hasKey, get?_patched]
    · rfl
  simp only [Collection.find?, List.find?_map, Function.comp_def, same_key]
  cases found : c.documents.find? (hasKey · key) with
  | none => simp
  | some document =>
    have has := hasKey_iff.mp (List.find?_some (p := (hasKey · key)) found)
    by_cases same : changed = key
    case pos => simp [hasKey, Value.string?, has, same]
    case neg => simp [hasKey, Value.string?, has, same, Ne.symm same]

theorem find?_remove (c : Collection) (removed key : String) :
    Collection.find? { c with
      documents := c.documents.filter fun document => !hasKey document removed } key =
      if removed = key then none else c.find? key := by
  simp only [Collection.find?, List.find?_filter]
  split
  case isTrue same => simp [same]
  case isFalse ne =>
    congr 1
    funext document
    by_cases has : hasKey document key
    case neg => simp [has]
    case pos => simp [hasKey, hasKey_iff.mp has, Value.string?, Ne.symm ne]

end Collection

namespace Store

-- What has been written to the collection of a name.
inductive Entry where
  | insert (name : String) (document : Fields)
  | update (name key : String) (patch : Fields)
  | remove (name key : String)
  | drop (name : String)

-- What an entry makes of the document that has been held under a name and a key.
def Entry.apply (name key : String) (held : Option Fields) : Entry → Option Fields
  | .insert target document =>
    if target = name ∧ Collection.hasKey document key then some document else held
  | .update target changed patch =>
    if target = name ∧ changed = key then held.map (Collection.patched · patch) else held
  | .remove target removed => if target = name ∧ removed = key then none else held
  | .drop target => if target = name then none else held

def held? (store : Store) (name key : String) : Option Fields :=
  (store.collections.get? name).bind (·.find? key)

section

variable (env : Environment)

-- What an operation has written if it has succeeded.
def entries (store : Store) (op : Operation) : List Entry :=
  match op, (store.perform env op).1 with
  | .dropCollection name, .ok _ => [.drop name]
  | .importDocuments name documents, .ok _ => (store.accepted env name documents).map (.insert name)
  | .query q, .ok (.items cursor) =>
    match q.statement with
    | .insert _ => cursor.documents.map (.insert q.collection)
    | .update key patch => [.update q.collection key patch]
    | .remove key => [.remove q.collection key]
    | _ => []
  | _, _ => []

-- All that has been written by operations one after the other.
def journal (store : Store) : List Operation → List Entry
  | [] => []
  | op :: ops => store.entries env op ++ (store.after env op).journal ops

end

variable {store store' : Store} {env : Environment} {name key target : String} {c c' : Collection}
  {documents stored : List Fields}

theorem held?_setCollection (eq : store'.collections = store.collections.insert target c') :
    store'.held? name key = if target = name then c'.find? key else store.held? name key := by
  rw [held?, eq, NameMap.get?_insert]
  by_cases same : target = name
  case pos => simp [same]
  case neg => simp [same, Ne.symm same, held?]

theorem held?_eq (held : store.collections.get? target = some c) (key : String) :
    store.held? target key = c.find? key := by
  simp [held?, held]

-- A document that is put at the end of its collection is found under a key that has
-- not been there before.
theorem held?_of_absent {document : Fields} (absent : c.position? key = none)
    (has : Collection.hasKey document key)
    (eq : store'.collections =
      store.collections.insert name { c with documents := c.documents ++ [document] }) :
    store'.held? name key = some document := by
  have not_found : c.documents.find? (Collection.hasKey · key) = none :=
    List.find?_eq_none.mpr (Collection.position?_eq_none_iff.mp absent)
  rw [held?_setCollection eq, if_pos rfl, Collection.find?, List.find?_append, not_found]
  simp [has]

-- An update is one of the document that is found under the key, and of no other.
theorem held?_of_update {patch : Fields} (reachable : store.Reachable)
    (h : store.update name key patch = (.ok (), store')) :
    ∃ document, store.held? name key = some document ∧
      store'.held? name key = some (Collection.patched document patch) ∧
      ∀ other, other ≠ key → store'.held? name other = store.held? name other := by
  have ⟨c, c', held, updated, eq⟩ := update_eq_ok h
  have identified := Collection.identified_preserved.of_reachable reachable name c held
  have ⟨i, document, position, at_index, _⟩ := Collection.update_eq_ok updated
  have found : c.find? key = some document := (Collection.find?_eq_getElem? position).trans at_index
  have after : ∀ other, store'.held? name other =
      if key = other then (c.find? other).map (Collection.patched · patch) else c.find? other := by
    intro other
    rw [eq, held?_setCollection rfl, if_pos rfl, (identified.update_eq_ok updated).2,
      Collection.find?_update]
  refine ⟨document, (held?_eq held key).trans found, ?_, fun other ne => ?_⟩
  · rw [after, if_pos rfl, found]
    rfl
  · rw [after, if_neg ne.symm, held?_eq held]

-- Where no two documents have the same key, it does not matter from which side a key is looked for.
theorem foldl_insert (distinct : ((documents ++ stored).map (·.get? keyAttribute)).Nodup)
    (name key : String) :
    (stored.map (Entry.insert name)).foldl (Entry.apply name key)
        (documents.find? (Collection.hasKey · key)) =
      (documents ++ stored).find? (Collection.hasKey · key) := by
  induction stored generalizing documents with
  | nil => simp
  | cons document stored ih =>
    have split : documents ++ document :: stored = (documents ++ [document]) ++ stored := by simp
    rw [split] at distinct ⊢
    rw [← ih distinct, List.map_cons, List.foldl_cons, List.find?_append]
    congr 1
    by_cases has : Collection.hasKey document key
    case pos =>
      have absent : documents.find? (Collection.hasKey · key) = none := by
        refine List.find?_eq_none.mpr fun other mem same => ?_
        rw [List.append_assoc, List.map_append, List.nodup_append] at distinct
        refine distinct.2.2 _ (List.mem_map_of_mem mem) (document.get? keyAttribute) (by simp) ?_
        rw [Collection.hasKey_iff.mp same, Collection.hasKey_iff.mp has]
      simp [Entry.apply, has, absent]
    case neg => simp [Entry.apply, has]

-- Documents that are appended to a collection are found there, and nowhere else.
theorem held?_append (held : store.collections.get? target = some c)
    (eq : store'.collections =
      store.collections.insert target { c with documents := c.documents ++ stored })
    (identified : store'.All fun name c => c.Identified name) (name key : String) :
    store'.held? name key =
      (stored.map (Entry.insert target)).foldl (Entry.apply name key) (store.held? name key) := by
  rw [held?_setCollection eq]
  split
  case isTrue same =>
    subst same
    have held' := congrArg (·.get? target) eq
    simp only [NameMap.get?_insert_self] at held'
    rw [held?_eq held]
    exact (foldl_insert (identified target _ held').distinct target key).symm
  case isFalse ne =>
    clear eq
    induction stored with
    | nil => rfl
    | cons document stored ih => simpa [Entry.apply, ne] using ih

-- What an operation has written decides about what is held after it.
theorem held?_after (reachable : store.Reachable) (legal : ∀ n, LegalKey (env.key n))
    (op : Operation)
    (name key : String) :
    (store.after env op).held? name key =
      (store.entries env op).foldl (Entry.apply name key) (store.held? name key) := by
  have identified := Collection.identified_preserved.of_reachable (reachable.after legal op)
  rw [← perform_state] at identified ⊢
  rcases performed : store.perform env op with ⟨e | answer, store'⟩
  case error =>
    rw [store.perform_atomic env op e store' performed]
    cases op <;> simp [entries, performed]
  case ok =>
    rw [performed] at identified
    dsimp only at identified ⊢
    cases perform_eq_ok reachable performed with
    | createCollection absent eq =>
      rw [held?_setCollection eq]
      simp only [entries, List.foldl_nil]
      split
      case isTrue same => subst same; simp [held?, absent, Collection.new, Collection.find?]
      case isFalse => rfl
    | dropCollection held eq =>
      simp only [held?, eq, NameMap.get?_erase, entries, performed, List.foldl_cons, List.foldl_nil,
        Entry.apply, eq_comm (a := name)]
      split <;> simp
    | createIndex held listed eq =>
      rw [held?_setCollection eq]
      simp only [entries, List.foldl_nil]
      split
      case isTrue same => subst same; exact (held?_eq held key).symm
      case isFalse => rfl
    | importDocuments held order _ created total eq =>
      rw [held?_append held eq identified]
      simp [entries, performed]
    | find statement => simp [entries, performed, statement]
    | all statement => simp [entries, performed, statement]
    | document statement => simp [entries, performed, statement]
    | insert statement held keyed stored_eq eq =>
      rw [held?_append held eq identified]
      simp [entries, performed, statement, Cursor.documents]
    | update statement held one eq =>
      rw [held?_setCollection eq]
      simp only [entries, performed, statement, List.foldl_cons, List.foldl_nil, Entry.apply]
      split
      case isTrue same =>
        subst same
        simp [held?_eq held, Collection.find?_update]
      case isFalse ne => simp [ne]
    | remove statement held one eq =>
      rw [held?_setCollection eq]
      simp only [entries, performed, statement, List.foldl_cons, List.foldl_nil, Entry.apply]
      split
      case isTrue same =>
        subst same
        simp [held?_eq held, Collection.find?_remove]
      case isFalse ne => simp [ne]

-- The journal decides about what is held after any number of operations.
theorem held?_run (reachable : store.Reachable) (legal : ∀ n, LegalKey (env.key n))
    (ops : List Operation)
    (name key : String) :
    (ops.foldl (Store.after env) store).held? name key =
      (store.journal env ops).foldl (Entry.apply name key) (store.held? name key) := by
  induction ops generalizing store with
  | nil => rfl
  | cons op ops ih =>
    rw [List.foldl_cons, ih (reachable.after legal op), held?_after reachable legal, journal,
      List.foldl_append]

theorem document_of_split? {id : String} (h : Id.split? id = some (name, key)) (store : Store) :
    store.document name id = ((store.held? name key).map Value.object).getD .null := by
  simp only [document, h, held?, ne_eq, not_true_eq_false, if_false]
  cases (store.collections.get? name).bind (·.find? key) <;> rfl

theorem document_of {name key : String} (word : Id.isWord name.toList) (key_ne : key ≠ "")
    (store : Store) :
    store.document name (Id.of name key) = ((store.held? name key).map Value.object).getD .null :=
  store.document_of_split? (Id.split?_of word key_ne)

-- A store is a map from names and keys to documents in the order of their insertion. An operation
-- that fails leaves it as it was, one that succeeds has the effect laid down for it, and a look-up
-- yields what has been written last.
theorem Reachable.ordered_map (reachable : store.Reachable) (legal : ∀ n, LegalKey (env.key n)) :
    (∀ op, match store.perform env op with
      | (.error _, store') => store' = store
      | (.ok answer, store') => Effect env store op answer store') ∧
    (∀ name, ((connector env).hasCollection name store).2 = store ∧
      ((connector env).indexes name store).2 = store) ∧
    ∀ name key, Id.isWord name.toList → key ≠ "" → ∀ ops : List Operation,
      ((connector env).query (.document name (Id.of name key))
        (ops.foldl (Store.after env) store)).1 =
        .ok [.ok <| match (store.journal env ops).foldl (Entry.apply name key)
          (store.held? name key) with
          | some document => .object document
          | none => .null] := by
  refine ⟨fun op => ?_, fun _ => ⟨rfl, rfl⟩, fun name key word key_ne ops => ?_⟩
  · split
    case h_1 performed => exact store.perform_atomic env op _ _ performed
    case h_2 performed => exact perform_eq_ok reachable performed
  · have answer : ((connector env).query (.document name (Id.of name key))
        (ops.foldl (Store.after env) store)).1 =
        .ok [.ok ((ops.foldl (Store.after env) store).document name (Id.of name key))] := rfl
    rw [answer, document_of word key_ne, held?_run reachable legal]
    cases (store.journal env ops).foldl (Entry.apply name key) (store.held? name key) <;> rfl

-- Documents are rejected, one is changed under the key that it keeps, and another one is removed.
theorem Reachable.ordered_map_of_mixed :
    let env : Environment := ⟨fun _ => "k", fun _ => none⟩
    let again := Operation.query (.insert "a" (.ofList [("x", .string "2")]))
    let ops := [
      .createCollection "a" .document, .query (.insert "a" (.ofList [("x", .string "1")])), again,
      .importDocuments "a" [.ofList [("_key", .string "l")], .ofList [("_key", .string "k")],
        .ofList [("_key", .string "m")]],
      .query (.update "a" "k" (.ofList [("_key", .string "l"), ("y", .string "3")])),
      .query (.remove "a" "l"), .query (.remove "a" "l")]
    let store := ops.foldl (Store.after env) .empty
    let lookUp := fun key => ((connector env).query (.document "a" (Id.of "a" key)) store).1
    (∃ document, lookUp "k" = .ok [.ok (.object document)] ∧
      ["_key", "x", "y"].map (fun attr => (document.get? attr).bind Value.string?) =
        [some "k", some "1", some "3"]) ∧
    lookUp "l" = .ok [.ok .null] ∧
    (store.perform env again).1.isOk = false ∧ (store.perform env again).2 = store := by
  intro env again ops store lookUp
  have legal : ∀ n, LegalKey (env.key n) := fun _ => by simp [env, LegalKey]
  have word : Id.isWord "a".toList := by decide +kernel
  have last_k := (Reachable.empty.ordered_map legal).2.2 "a" "k" word (by decide) ops
  have last_l := (Reachable.empty.ordered_map legal).2.2 "a" "l" word (by decide) ops
  have held_k : ((Store.empty.journal env ops).foldl (Entry.apply "a" "k")
    (Store.empty.held? "a" "k")).map
      (fun document => ["_key", "x", "y"].map fun attr => (document.get? attr).bind Value.string?) =
        some [some "k", some "1", some "3"] := by decide +kernel
  have held_l : (Store.empty.journal env ops).foldl (Entry.apply "a" "l")
    (Store.empty.held? "a" "l") =
      none :=
    Option.isNone_iff_eq_none.mp (by decide +kernel)
  have failed : (store.perform env again).1.isOk = false := by decide +kernel
  have reachable : store.Reachable := Reachable.empty.run legal ops
  refine ⟨?_, by rw [held_l] at last_l; exact last_l, failed, ?_⟩
  · obtain ⟨document, held_k, attrs⟩ := Option.map_eq_some_iff.mp held_k
    rw [held_k] at last_k
    exact ⟨document, last_k, attrs⟩
  · clear_value store
    have atomic := (reachable.ordered_map legal).1 again
    split at atomic
    case h_1 performed => rw [performed]; exact atomic
    case h_2 performed => rw [performed] at failed; cases failed

end Store
end RecordStore
