import RecordStore.Proofs.Store.Identity

-- The effects of operations: one that fails leaves the store as it was, and one that succeeds
-- changes nothing but the collection it names. The documents of a collection are a map from their
-- keys in the order of their insertion.

namespace RecordStore

namespace Collection

variable {c c' : Collection} {name key generated : String} {document patch : Fields}

-- There is only one document with the key that is at a position.
theorem Identified.split (identified : c.Identified name) (h : c.position? key = some i) :
    ∃ before document after, c.documents = before ++ document :: after ∧ before.length = i ∧
      hasKey document key ∧ (∀ other ∈ before, ¬hasKey other key) ∧
      ∀ other ∈ after, ¬hasKey other key := by
  have ⟨lt, held⟩ := getElem_of_position? h
  have parts : c.documents = c.documents.take i ++ c.documents[i] :: c.documents.drop (i + 1) := by
    rw [List.getElem_cons_drop, List.take_append_drop]
  have distinct := identified.distinct
  rw [parts, List.map_append, List.map_cons, List.nodup_append, List.nodup_cons,
    hasKey_iff.mp held] at distinct
  obtain ⟨_, ⟨after, _⟩, before⟩ := distinct
  refine ⟨_, _, _, parts, by simp [Nat.le_of_lt lt], held, fun other mem same => ?_,
    fun other mem same => ?_⟩
  · exact before _ (List.mem_map_of_mem mem) _ List.mem_cons_self (hasKey_iff.mp same)
  · exact after <| List.mem_map.mpr ⟨other, mem, hasKey_iff.mp same⟩

theorem Identified.countP_eq_one (identified : c.Identified name) (h : c.position? key = some i) :
    c.documents.countP (hasKey · key) = 1 := by
  have ⟨before, document, after, parts, _, has, before_lacks, after_lacks⟩ := identified.split h
  rw [parts, List.countP_append, List.countP_cons_of_pos (p := (hasKey · key)) has,
    List.countP_eq_zero.mpr before_lacks, List.countP_eq_zero.mpr after_lacks]

-- An update changes exactly the document with the key, at its place.
theorem Identified.update_eq_ok (identified : c.Identified name)
    (h : c.update name key patch = (.ok (), c')) :
    c.documents.countP (hasKey · key) = 1 ∧
      c' = { c with
        documents := c.documents.map fun document =>
          if hasKey document key then patched document patch else document } := by
  have ⟨i, document, position, held, _, eq⟩ := Collection.update_eq_ok h
  have ⟨before, document', after, parts, length, has, before_lacks, after_lacks⟩ :=
    identified.split position
  subst length
  have same : document' = document := by simpa [parts] using held
  subst same
  have unchanged : ∀ {others : List Fields}, (∀ other ∈ others, ¬hasKey other key) →
      others.map (fun other => if hasKey other key then patched other patch else other) = others :=
    fun lack => (List.map_congr_left fun other mem => if_neg (lack other mem)).trans
      (List.map_id' _)
  constructor
  · exact identified.countP_eq_one position
  · rw [eq, parts, List.set_append_right _ _ (Nat.le_refl _), Nat.sub_self, List.set_cons_zero,
      List.map_append, List.map_cons, if_pos has, unchanged before_lacks, unchanged after_lacks]

-- A removal deletes exactly the document with the key.
theorem Identified.remove_eq_ok (identified : c.Identified name)
    (h : c.remove name key = (.ok (), c')) :
    c.documents.countP (hasKey · key) = 1 ∧
      c' = { c with documents := c.documents.filter fun document => !hasKey document key } := by
  have ⟨i, position, eq⟩ := Collection.remove_eq_ok h
  have ⟨before, document, after, parts, length, has, before_lacks, after_lacks⟩ :=
    identified.split position
  subst length
  have kept : ∀ {others : List Fields}, (∀ other ∈ others, ¬hasKey other key) →
      others.filter (fun other => !hasKey other key) = others :=
    fun lack => List.filter_eq_self.mpr fun other mem => by simpa using lack other mem
  constructor
  · exact identified.countP_eq_one position
  · rw [eq, parts, List.eraseIdx_append_of_length_le (Nat.le_refl _), Nat.sub_self,
      List.eraseIdx_cons_zero, List.filter_append, List.filter_cons_of_neg (by simpa using has),
      kept before_lacks, kept after_lacks]

-- The key that a document asks for, or else the one that is generated for it.
inductive Keyed (generated : String) (document : Fields) (key : String) : Prop where
  | asked (h : document.get? keyAttribute = some (.string key))
  | generated (absent : document.get? keyAttribute = none) (eq : key = generated)

theorem keyed_of_chooseKey (h : chooseKey generated document = .ok key) :
    Keyed generated document key := by
  unfold chooseKey at h
  split at h
  case h_1 absent => cases h; exact .generated absent rfl
  case h_2 asked =>
    split at h <;> cases h
    exact .asked asked
  case h_3 => cases h

end Collection

namespace Store

-- What an operation answers where it succeeds.
inductive Operation.Answer where
  | nothing
  | summary (summary : ImportSummary)
  | items (cursor : Cursor)

def answering (answer : α → Operation.Answer) (result : Except Error α × Store) :
    Except Error Operation.Answer × Store :=
  (result.1.map answer, result.2)

section

variable (env : Environment)

-- An operation on a store behind its connector.
def perform (store : Store) : Operation → Except Error Operation.Answer × Store
  | .createCollection name kind =>
    answering (fun _ => .nothing) ((connector env).createCollection name kind store)
  | .dropCollection name =>
    answering (fun _ => .nothing) ((connector env).dropCollection name store)
  | .createIndex name index =>
    answering (fun _ => .nothing) ((connector env).createIndex name index store)
  | .importDocuments name documents =>
    answering .summary ((connector env).importDocuments name documents store)
  | .query q => answering .items ((connector env).query q store)

-- The documents that are stored if they are inserted one after the other. Those that are rejected
-- are passed over.
def accepted (store : Store) (name : String) : List Fields → List Fields
  | [] => []
  | document :: documents =>
    let (result, store) := store.insert env name document
    match result with
    | .ok stored => stored :: store.accepted name documents
    | .error _ => store.accepted name documents

-- What an operation has answered and done where it has succeeded.
inductive Effect (store : Store) : Operation → Operation.Answer → Store → Prop where
  | createCollection {name : String}
      (absent : store.collections.get? name = none)
      (eq : store'.collections = store.collections.insert name (.new kind)) :
    Effect store (.createCollection name kind) .nothing store'
  | dropCollection {name : String}
      (held : store.collections.get? name = some c)
      (eq : store'.collections = store.collections.erase name) :
    Effect store (.dropCollection name) .nothing store'
  | createIndex {name : String} {list : List Index}
      (held : store.collections.get? name = some c)
      (listed : list = c.indexes ∨ list = c.indexes ++ [index])
      (eq : store'.collections = store.collections.insert name { c with indexes := list }) :
    Effect store (.createIndex name index) .nothing store'
  | importDocuments {name : String} {documents given : List Fields}
      (held : store.collections.get? name = some c)
      (order : given.Sublist documents)
      (identified : List.Forall₂
        (fun document stored => ∃ key, stored = Collection.identify name key document)
        given (store.accepted env name documents))
      (created : summary.created = (store.accepted env name documents).length)
      (total : summary.created + summary.errors = documents.length)
      (eq : store'.collections = store.collections.insert name
        { c with documents := c.documents ++ store.accepted env name documents }) :
    Effect store (.importDocuments name documents) (.summary summary) store'
  | find {q : Query} (statement : q.statement = .find plan) :
    Effect store (.query q) (.items cursor) store
  | all {q : Query} (statement : q.statement = .all sorts) :
    Effect store (.query q) (.items cursor) store
  | document {q : Query} {id : String} (statement : q.statement = .document id) :
    Effect store (.query q) (.items cursor) store
  | insert {q : Query} {document stored : Fields}
      (statement : q.statement = .insert document)
      (held : store.collections.get? q.collection = some c)
      (keyed : Collection.Keyed (store.nextKey env) document key)
      (stored_eq : stored = Collection.identify q.collection key document)
      (eq : store'.collections = store.collections.insert q.collection
        { c with documents := c.documents ++ [stored] }) :
    Effect store (.query q) (.items [.ok (.object stored)]) store'
  | update {q : Query} {key : String} {patch : Fields}
      (statement : q.statement = .update key patch)
      (held : store.collections.get? q.collection = some c)
      (one : c.documents.countP (Collection.hasKey · key) = 1)
      (eq : store'.collections = store.collections.insert q.collection
        { c with
          documents := c.documents.map fun document =>
            if Collection.hasKey document key then Collection.patched document patch
            else document }) :
    Effect store (.query q) (.items []) store'
  | remove {q : Query} {key : String}
      (statement : q.statement = .remove key)
      (held : store.collections.get? q.collection = some c)
      (one : c.documents.countP (Collection.hasKey · key) = 1)
      (eq : store'.collections = store.collections.insert q.collection
        { c with
          documents := c.documents.filter fun document => !Collection.hasKey document key }) :
    Effect store (.query q) (.items []) store'

end

variable {store store' : Store} {env : Environment} {name : String} {document stored : Fields}
  {documents : List Fields} {op : Operation} {answer : Operation.Answer}

theorem perform_state (env : Environment) (store : Store) (op : Operation) :
    (store.perform env op).2 = store.after env op := by
  cases op <;> rfl

-- A document that is inserted is put at the end of its collection, with its key and its id.
theorem insert_eq_stored (h : store.insert env name document = (.ok stored, store')) :
    ∃ c key, store.collections.get? name = some c ∧
      Collection.Keyed (store.nextKey env) document key ∧ c.position? key = none ∧
      stored = Collection.identify name key document ∧
      store'.collections = store.collections.insert name
        { c with documents := c.documents ++ [stored] } := by
  have ⟨c, c', held, inserted, eq⟩ := insert_eq_ok h
  have ⟨_, key, chosen, absent, stored_eq, _, eq'⟩ := Collection.insert_eq_ok inserted
  refine ⟨c, key, held, Collection.keyed_of_chooseKey chosen, absent, stored_eq, ?_⟩
  rw [eq, countKey_collections, eq']
  rfl

-- Of the documents of an import, those that are accepted are counted and stored in their order.
theorem insertAll_eq (env : Environment) (documents : List Fields)
    (held : store.collections.get? name = some c) :
    (store.insertAll env name documents).2.collections = store.collections.insert name
        { c with documents := c.documents ++ store.accepted env name documents } ∧
      (store.insertAll env name documents).1.created = (store.accepted env name documents).length ∧
      (store.insertAll env name documents).1.created +
        (store.insertAll env name documents).1.errors =
        documents.length := by
  induction documents generalizing store c with
  | nil => simp [insertAll, accepted, NameMap.insert_of_get? held]
  | cons document documents ih =>
    rcases inserted : store.insert env name document with ⟨e | stored, next⟩
    case error =>
      obtain rfl := store.insert_atomic env name document e next inserted
      obtain ⟨rest, created, total⟩ := ih held
      simp only [insertAll, accepted, inserted]
      exact ⟨rest, created, by rw [List.length_cons, ← total]; omega⟩
    case ok =>
      obtain ⟨_, d, held', inserted', eq⟩ := insert_eq_ok inserted
      cases held.symm.trans held'
      obtain ⟨_, _, _, _, _, _, eq'⟩ := Collection.insert_eq_ok inserted'
      have collections : next.collections = store.collections.insert name d := by simp [eq]
      have held_next : next.collections.get? name = some d := by simp [collections]
      obtain ⟨rest, created, total⟩ := ih held_next
      simp only [insertAll, accepted, inserted]
      refine ⟨?_, congrArg (· + 1) created, by rw [List.length_cons, ← total]; omega⟩
      rw [rest, collections, NameMap.insert_insert, eq', List.append_assoc, List.singleton_append]

-- Each of them is one of the given documents with its key and its id.
theorem accepted_identified (store : Store) (env : Environment) (name : String)
    (documents : List Fields) : ∃ given, given.Sublist documents ∧
      List.Forall₂ (fun document stored => ∃ key, stored = Collection.identify name key document)
        given (store.accepted env name documents) := by
  induction documents generalizing store with
  | nil => exact ⟨[], .slnil, .nil⟩
  | cons document documents ih =>
    rcases inserted : store.insert env name document with ⟨result, next⟩
    obtain ⟨given, order, identified⟩ := ih next
    simp only [accepted, inserted]
    cases result with
    | error e => exact ⟨given, order.cons _, identified⟩
    | ok stored =>
      have ⟨_, key, _, _, _, eq, _⟩ := insert_eq_stored inserted
      exact ⟨document :: given, order.cons_cons _, .cons ⟨key, eq⟩ identified⟩

-- An operation that fails has done nothing.
theorem perform_atomic (store : Store) (env : Environment) (op : Operation) :
    Atomic store (store.perform env op) := by
  cases op with
  | createCollection name kind => exact (store.createCollection_atomic name kind).map _
  | dropCollection name => exact (store.dropCollection_atomic name).map _
  | createIndex name index => exact (store.createIndex_atomic name index).map _
  | importDocuments name documents => exact (store.importDocuments_atomic env name documents).map _
  | query q => exact ((store.query_atomic env q).map _).map _

-- The operation itself has succeeded where its answer is no error.
theorem answering_eq_ok {f : α → Operation.Answer} {result : Except Error α × Store}
    (h : answering f result = (.ok answer, store')) :
    ∃ a, result = (.ok a, store') ∧ f a = answer := by
  rcases result with ⟨_ | a, next⟩ <;> cases h
  exact ⟨a, rfl, rfl⟩

theorem perform_eq_ok (reachable : store.Reachable)
    (h : store.perform env op = (.ok answer, store')) : Effect env store op answer store' := by
  have identified := Collection.identified_preserved.of_reachable reachable
  cases op with
  | createCollection name kind =>
    obtain ⟨_, created, rfl⟩ := answering_eq_ok h
    have ⟨absent, eq⟩ := createCollection_eq_ok created
    exact .createCollection absent (by simp [eq])
  | dropCollection name =>
    obtain ⟨_, dropped, rfl⟩ := answering_eq_ok h
    have ⟨⟨c, held⟩, eq⟩ := dropCollection_eq_ok dropped
    exact .dropCollection held (by simp [eq])
  | createIndex name index =>
    obtain ⟨_, created, rfl⟩ := answering_eq_ok h
    have ⟨c, _, held, eq⟩ := createIndex_eq_ok created
    have listed : c.createIndex index = c ∨
        c.createIndex index = { c with indexes := c.indexes ++ [index] } := by
      unfold Collection.createIndex
      split
      · exact .inl rfl
      · exact .inr rfl
    rcases listed with same | more
    · exact .createIndex held (.inl rfl) (by rw [eq, same]; rfl)
    · exact .createIndex held (.inr rfl) (by rw [eq, more]; rfl)
  | importDocuments name documents =>
    obtain ⟨summary, imported, rfl⟩ := answering_eq_ok h
    have ⟨c, held, all⟩ := importDocuments_eq_ok imported
    have ⟨given, order, identified⟩ := accepted_identified store env name documents
    have ⟨eq, created, total⟩ := insertAll_eq env documents held
    rw [all] at eq created total
    exact .importDocuments held order identified created total eq
  | query q =>
    obtain ⟨cursor, read, rfl⟩ := answering_eq_ok h
    obtain ⟨items, answered, rfl⟩ := connector_query_eq_ok read
    cases query_eq_ok answered with
    | find statement => exact .find statement
    | all statement => exact .all statement
    | document statement => exact .document statement
    | insert statement inserted =>
      have ⟨c, key, held, keyed, _, stored_eq, eq⟩ := insert_eq_stored inserted
      exact .insert statement held keyed stored_eq eq
    | update statement updated =>
      have ⟨c, c', held, updated, eq⟩ := update_eq_ok updated
      have ⟨one, eq'⟩ := (identified _ c held).update_eq_ok updated
      exact .update statement held one (by rw [eq, eq']; rfl)
    | remove statement removed =>
      have ⟨c, c', held, removed, eq⟩ := remove_eq_ok removed
      have ⟨one, eq'⟩ := (identified _ c held).remove_eq_ok removed
      exact .remove statement held one (by rw [eq, eq']; rfl)

end Store
end RecordStore
