import RecordStore.Connector
import RecordStore.Proofs.Store.Collection

-- The stores that can be reached from the empty one, and what holds of all of their collections.

namespace RecordStore.Store

-- What a connector can be asked to do with a store.
inductive Operation where
  | createCollection (name : String) (kind : CollectionKind)
  | dropCollection (name : String)
  | createIndex (name : String) (index : Index)
  | importDocuments (name : String) (documents : List Fields)
  | query (q : Query)

-- The store after an operation, whether it succeeds or fails.
def after (env : Environment) (store : Store) : Operation → Store
  | .createCollection name kind => ((connector env).createCollection name kind store).2
  | .dropCollection name => ((connector env).dropCollection name store).2
  | .createIndex name index => ((connector env).createIndex name index store).2
  | .importDocuments name documents => ((connector env).importDocuments name documents store).2
  | .query q => ((connector env).query q store).2

-- Each operation may be given another environment, as long as all of its keys are legal.
inductive Reachable : Store → Prop where
  | empty : Reachable empty
  | after (r : Reachable store) (legal : ∀ n, LegalKey (env.key n)) (op : Operation) :
    Reachable (store.after env op)

theorem Reachable.run (r : Reachable store) (legal : ∀ n, LegalKey (env.key n))
    (ops : List Operation) :
    Reachable (ops.foldl (Store.after env) store) := by
  induction ops generalizing store with
  | nil => exact r
  | cons op ops ih => exact ih (r.after legal op)

-- A property of collections and their names that all operations on a collection preserve.
structure Preserved (P : String → Collection → Prop) : Prop where
  new {name kind} : P name (.new kind)
  insert {name generated document stored} {c c' : Collection} :
    P name c → LegalKey generated → c.insert name generated document = (.ok stored, c') → P name c'
  update {name key patch} {c c' : Collection} :
    P name c → c.update name key patch = (.ok (), c') → P name c'
  remove {name key} {c c' : Collection} : P name c → c.remove name key = (.ok (), c') → P name c'
  createIndex {name index} {c : Collection} :
    P name c → index.validate = .ok () → P name (c.createIndex index)

-- The same, apart from updates.
structure PreservedWithoutUpdates (P : String → Collection → Prop) : Prop where
  new {name kind} : P name (.new kind)
  insert {name generated document stored} {c c' : Collection} :
    P name c → LegalKey generated → c.insert name generated document = (.ok stored, c') → P name c'
  remove {name key} {c c' : Collection} : P name c → c.remove name key = (.ok (), c') → P name c'
  createIndex {name index} {c : Collection} :
    P name c → index.validate = .ok () → P name (c.createIndex index)

-- An operation that updates a collection, and the collection before and after it.
inductive Updates (store : Store) :
    Operation → String → Fields → Collection → Collection → Prop where
  | query {q : Query} {key : String} {patch : Fields} {c c' : Collection}
    (statement : q.statement = .update key patch)
    (held : store.collections.get? q.collection = some c)
    (updated : c.update q.collection key patch = (.ok (), c')) :
    Updates store (.query q) q.collection patch c c'

variable {store store' : Store} {env : Environment} {name key : String} {c c' : Collection}
  {document stored patch : Fields}

theorem collection_eq_ok_iff :
    store.collection name = .ok c ↔ store.collections.get? name = some c := by
  unfold collection
  split <;> simp_all

@[simp]
theorem setCollection_collections (store : Store) (name : String) (c : Collection) :
    (store.setCollection name c).collections = store.collections.insert name c :=
  rfl

@[simp]
theorem countKey_collections (store : Store) (document : Fields) :
    (store.countKey document).collections = store.collections := by
  unfold countKey
  split <;> rfl

theorem setCollection_of_get? (held : store.collections.get? name = some c) :
    store.setCollection name c = store := by
  rw [setCollection, NameMap.insert_of_get? held]

section

variable {operation : Collection → Except Error α × Collection}

theorem change_eq_ok (h : store.change name operation = (.ok a, store')) :
    ∃ c c', store.collections.get? name = some c ∧ operation c = (.ok a, c') ∧
      store' = store.setCollection name c' := by
  unfold change at h
  split at h
  case h_1 => cases h
  case h_2 c held =>
    rcases done : operation c with ⟨result, c'⟩
    rw [done] at h
    cases h
    exact ⟨c, c', collection_eq_ok_iff.mp held, done, rfl⟩

-- Where the operation leaves its collection as it was, the collection is put back to its place.
theorem change_atomic (store : Store) (name : String) (atomic : ∀ c, Atomic c (operation c)) :
    Atomic store (store.change name operation) := by
  intro e store' h
  unfold change at h
  split at h
  case h_1 => cases h; rfl
  case h_2 c held =>
    rcases done : operation c with ⟨result, c'⟩
    rw [done] at h
    cases h
    rw [atomic c e c' done, setCollection_of_get? (collection_eq_ok_iff.mp held)]

end

theorem insert_eq_ok (h : store.insert env name document = (.ok stored, store')) :
    ∃ c c', store.collections.get? name = some c ∧
      c.insert name (store.nextKey env) document = (.ok stored, c') ∧
      store' = (store.setCollection name c').countKey document := by
  unfold Store.insert at h
  split at h <;> cases h
  case h_1 changed =>
    have ⟨c, c', held, inserted, eq⟩ := change_eq_ok changed
    exact ⟨c, c', held, inserted, eq ▸ rfl⟩

theorem insert_atomic (store : Store) (env : Environment) (name : String) (document : Fields) :
    Atomic store (store.insert env name document) := by
  intro e store' h
  unfold Store.insert at h
  split at h <;> cases h
  case h_2 changed =>
    exact store.change_atomic name (fun c => c.insert_atomic name _ document) e _ changed

theorem update_eq_ok (h : store.update name key patch = (.ok (), store')) :
    ∃ c c', store.collections.get? name = some c ∧ c.update name key patch = (.ok (), c') ∧
      store' = store.setCollection name c' :=
  change_eq_ok h

theorem update_atomic (store : Store) (name key : String) (patch : Fields) :
    Atomic store (store.update name key patch) :=
  store.change_atomic name fun c => c.update_atomic name key patch

theorem remove_eq_ok (h : store.remove name key = (.ok (), store')) :
    ∃ c c', store.collections.get? name = some c ∧ c.remove name key = (.ok (), c') ∧
      store' = store.setCollection name c' :=
  change_eq_ok h

theorem remove_atomic (store : Store) (name key : String) : Atomic store (store.remove name key) :=
  store.change_atomic name fun c => c.remove_atomic name key

theorem createIndex_eq_ok (h : store.createIndex name index = (.ok (), store')) :
    ∃ c, index.validate = .ok () ∧ store.collections.get? name = some c ∧
      store' = store.setCollection name (c.createIndex index) := by
  unfold createIndex at h
  split at h
  case h_1 => cases h
  case h_2 valid =>
    have ⟨c, c', held, created, eq⟩ := change_eq_ok h
    cases created
    exact ⟨c, valid, held, eq⟩

theorem createIndex_atomic (store : Store) (name : String) (index : Index) :
    Atomic store (store.createIndex name index) := by
  unfold createIndex
  split
  case h_1 => exact .of_eq rfl
  case h_2 => exact store.change_atomic name fun _ _ _ => nofun

theorem createCollection_eq_ok (h : store.createCollection name kind = (.ok (), store')) :
    store.collections.get? name = none ∧ store' = store.setCollection name (.new kind) := by
  unfold createCollection at h
  split at h <;> cases h
  case isFalse absent => exact ⟨Option.not_isSome_iff_eq_none.mp absent, rfl⟩

theorem createCollection_atomic (store : Store) (name : String) (kind : CollectionKind) :
    Atomic store (store.createCollection name kind) := by
  intro e store' h
  unfold createCollection at h
  split at h <;> cases h
  rfl

theorem dropCollection_eq_ok (h : store.dropCollection name = (.ok (), store')) :
    (∃ c, store.collections.get? name = some c) ∧
      store' = { store with collections := store.collections.erase name } := by
  unfold dropCollection at h
  split at h <;> cases h
  case isTrue held => exact ⟨Option.isSome_iff_exists.mp held, rfl⟩

-- There was nothing to be removed.
theorem dropCollection_atomic (store : Store) (name : String) :
    Atomic store (store.dropCollection name) := by
  intro e store' h
  unfold dropCollection at h
  split at h <;> cases h
  case isFalse absent => rw [NameMap.erase_of_not_contains absent]

-- All that a query can do where it succeeds.
inductive Answered (env : Environment) (store : Store) (q : Query) : List Value → Store → Prop where
  | find {plan : Plan} {items} (statement : q.statement = .find plan) :
    Answered env store q items store
  | all {sorts : List SortKey} {items} (statement : q.statement = .all sorts) :
    Answered env store q items store
  | document {id : String} {items} (statement : q.statement = .document id) :
    Answered env store q items store
  | insert {document stored : Fields} {next : Store} (statement : q.statement = .insert document)
    (inserted : store.insert env q.collection document = (.ok stored, next)) :
    Answered env store q [.object stored] next
  | update {key : String} {patch : Fields} {next : Store}
    (statement : q.statement = .update key patch)
    (updated : store.update q.collection key patch = (.ok (), next)) : Answered env store q [] next
  | remove {key : String} {next : Store} (statement : q.statement = .remove key)
    (removed : store.remove q.collection key = (.ok (), next)) : Answered env store q [] next

theorem query_eq_ok {q : Query} (h : store.query env q = (.ok items, store')) :
    Answered env store q items store' := by
  unfold Store.query at h
  split at h
  case h_1 plan statement =>
    obtain ⟨_, rfl⟩ := Prod.mk.inj h
    exact .find statement
  case h_2 sorts statement =>
    obtain ⟨_, rfl⟩ := Prod.mk.inj h
    exact .all statement
  case h_3 id statement => cases h; exact .document statement
  case h_4 document statement =>
    rcases inserted : store.insert env q.collection document with ⟨_ | stored, next⟩ <;>
      rw [inserted] at h <;> cases h
    exact .insert statement inserted
  case h_5 key patch statement =>
    rcases updated : store.update q.collection key patch with ⟨_ | _, next⟩ <;>
      rw [updated] at h <;> cases h
    exact .update statement updated
  case h_6 key statement =>
    rcases removed : store.remove q.collection key with ⟨_ | _, next⟩ <;>
      rw [removed] at h <;> cases h
    exact .remove statement removed

theorem query_atomic (store : Store) (env : Environment) (q : Query) :
    Atomic store (store.query env q) := by
  unfold Store.query
  split
  case h_1 | h_2 | h_3 => exact .of_eq rfl
  case h_4 document _ => exact (store.insert_atomic env q.collection document).map _
  case h_5 key patch _ => exact (store.update_atomic q.collection key patch).map _
  case h_6 key _ => exact (store.remove_atomic q.collection key).map _

-- The connector passes on the items of an answer one by one.
theorem connector_query_eq_ok {q : Query} {cursor : Cursor}
    (h : (connector env).query q store = (.ok cursor, store')) :
    ∃ items, store.query env q = (.ok items, store') ∧ cursor = items.map .ok := by
  rcases answered : store.query env q with ⟨_ | items, next⟩ <;>
    simp only [connector, answered] at h <;> cases h
  exact ⟨items, rfl, rfl⟩

theorem insertAll_cons_state (store : Store) (env : Environment) (name : String) (document : Fields)
    (documents : List Fields) : (store.insertAll env name (document :: documents)).2 =
      ((store.insert env name document).2.insertAll env name documents).2 := by
  rw [insertAll]
  rcases store.insert env name document with ⟨_ | _, next⟩ <;> rfl

-- An import fails only before the first insertion.
theorem importDocuments_eq_ok
    (h : store.importDocuments env name documents = (.ok summary, store')) :
    ∃ c, store.collections.get? name = some c ∧
      store.insertAll env name documents = (summary, store') := by
  unfold importDocuments at h
  split at h <;> cases h
  case h_2 c held => exact ⟨c, collection_eq_ok_iff.mp held, rfl⟩

theorem importDocuments_atomic (store : Store) (env : Environment) (name : String)
    (documents : List Fields) : Atomic store (store.importDocuments env name documents) := by
  intro e store' h
  unfold importDocuments at h
  split at h <;> cases h
  rfl

-- The property holds of each of the store's collections.
def All (P : String → Collection → Prop) (store : Store) : Prop :=
  ∀ name c, store.collections.get? name = some c → P name c

variable {P : String → Collection → Prop}

theorem All.setCollection (all : store.All P) (h : P name c) :
    (store.setCollection name c).All P := by
  intro other d held
  rw [setCollection_collections, NameMap.get?_insert] at held
  split at held
  case isTrue eq => cases held; exact eq ▸ h
  case isFalse => exact all other d held

theorem All.countKey (all : store.All P) (document : Fields) : (store.countKey document).All P := by
  simpa only [All, countKey_collections] using all

namespace PreservedWithoutUpdates

variable (preserved : PreservedWithoutUpdates P)

include preserved

theorem insert' (legal : ∀ n, LegalKey (env.key n)) (all : store.All P)
    (h : store.insert env name document = (.ok stored, store')) : store'.All P := by
  have ⟨c, c', held, inserted, eq⟩ := insert_eq_ok h
  rw [eq]
  exact (all.setCollection <| preserved.insert (all name c held) (legal _) inserted).countKey _

theorem insertAll (legal : ∀ n, LegalKey (env.key n)) (all : store.All P) (name : String)
    (documents : List Fields) : (store.insertAll env name documents).2.All P := by
  induction documents generalizing store with
  | nil => exact all
  | cons document documents ih =>
    have inserted : (store.insert env name document).2.All P :=
      (store.insert_atomic env name document).induction all fun _ _ => preserved.insert' legal all
    rw [insertAll_cons_state]
    exact ih inserted

theorem query (legal : ∀ n, LegalKey (env.key n)) (all : store.All P) {q : Query}
    (update : ∀ name patch c c', Updates store (.query q) name patch c c' → P name c → P name c')
    (h : store.query env q = (.ok items, store')) : store'.All P := by
  cases query_eq_ok h with
  | find | all | document => assumption
  | insert _ inserted => exact preserved.insert' legal all inserted
  | update statement updated =>
    have ⟨c, c', held, updated, eq⟩ := update_eq_ok updated
    exact eq ▸ all.setCollection (update _ _ c c' (.query statement held updated) (all _ c held))
  | remove _ removed =>
    have ⟨c, c', held, removed, eq⟩ := remove_eq_ok removed
    exact eq ▸ all.setCollection (preserved.remove (all _ c held) removed)

-- One operation preserves the property, also if it fails, as long as it does so if it is an update.
theorem after (legal : ∀ n, LegalKey (env.key n)) (all : store.All P) (op : Operation)
    (update : ∀ name patch c c', Updates store op name patch c c' → P name c → P name c') :
    (store.after env op).All P := by
  cases op with
  | createCollection name kind =>
    refine (store.createCollection_atomic name kind).induction all fun _ _ created => ?_
    exact (createCollection_eq_ok created).2 ▸ all.setCollection preserved.new
  | dropCollection name =>
    refine (store.dropCollection_atomic name).induction all fun _ _ dropped => ?_
    intro other c held
    rw [(dropCollection_eq_ok dropped).2, NameMap.get?_erase] at held
    split at held
    case isTrue => cases held
    case isFalse => exact all other c held
  | createIndex name index =>
    refine (store.createIndex_atomic name index).induction all fun _ _ created => ?_
    have ⟨c, valid, held, eq⟩ := createIndex_eq_ok created
    exact eq ▸ all.setCollection (preserved.createIndex (all name c held) valid)
  | importDocuments name documents =>
    refine (store.importDocuments_atomic env name documents).induction all fun _ _ imported => ?_
    have ⟨_, _, eq⟩ := importDocuments_eq_ok imported
    have kept := preserved.insertAll legal all name documents
    rwa [eq] at kept
  | query q =>
    exact (store.query_atomic env q).induction all fun _ _ => preserved.query legal all update

end PreservedWithoutUpdates

theorem all_empty : Store.empty.All P :=
  fun _ _ held => nomatch held

namespace Preserved

variable (preserved : Preserved P)

include preserved

theorem withoutUpdates : PreservedWithoutUpdates P where
  new := preserved.new
  insert := preserved.insert
  remove := preserved.remove
  createIndex := preserved.createIndex

theorem after (legal : ∀ n, LegalKey (env.key n)) (all : store.All P) (op : Operation) :
    (store.after env op).All P := by
  refine preserved.withoutUpdates.after legal all op fun _ _ _ _ updates h => ?_
  cases updates with
  | query _ _ updated => exact preserved.update h updated

-- So every reachable store has it.
theorem of_reachable (r : Reachable store) : store.All P := by
  induction r with
  | empty => exact all_empty
  | after _ legal op ih => exact preserved.after legal ih op

end Preserved

-- A collection that is updated is held afterwards as the update has left it.
theorem Updates.held (u : Updates store op name patch c c') (env : Environment) :
    (store.after env op).collections.get? name = some c' := by
  cases u with
  | @query q key patch c c' statement held updated =>
    have found := collection_eq_ok_iff.mpr held
    have eq : store.after env (.query q) = store.setCollection q.collection c' := by
      simp [Store.after, connector, Store.query, statement, Store.update, change, found, updated]
    simp [eq]

end RecordStore.Store
