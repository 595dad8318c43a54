import RecordStore.Proofs.Schema.Agreement
import RecordStore.Proofs.Store.Reachable

-- Stores that agree on a collection keep agreeing on it whatever they are asked about it, and none
-- of their other collections changes.

namespace RecordStore

theorem SameOutcome.map {R : σ₁ → σ₂ → Prop} {x : Except Error α × σ₁} {y : Except Error α × σ₂}
    (same : SameOutcome R x y) (f : α → β) : SameOutcome R (x.1.map f, x.2) (y.1.map f, y.2) := by
  obtain ⟨result, t₁, t₂, rfl, rfl, related⟩ := same
  exact .of_related _ related

namespace Store

-- Stores with the same collection under a name, the same keys to be generated and the same
-- patterns, and with the other collections of the stores that they come from.
structure Agree (name : String) (env₁ env₂ : Environment) (origin₁ origin₂ s₁ s₂ : Store) :
    Prop where
  collection : s₁.collections.get? name = s₂.collections.get? name
  pattern : env₁.pattern = env₂.pattern
  key : ∀ n, env₁.key (s₁.generated + n) = env₂.key (s₂.generated + n)
  others₁ : ∀ other, other ≠ name → s₁.collections.get? other = origin₁.collections.get? other
  others₂ : ∀ other, other ≠ name → s₂.collections.get? other = origin₂.collections.get? other

namespace Agree

variable {name : String} {env₁ env₂ : Environment} {origin₁ origin₂ s₁ s₂ : Store}

section

variable (agree : Agree name env₁ env₂ origin₁ origin₂ s₁ s₂)

include agree

theorem collection_eq : s₁.collection name = s₂.collection name := by
  rw [Store.collection, Store.collection, agree.collection]

theorem contains_eq : s₁.collections.contains name = s₂.collections.contains name := by
  rw [NameMap.contains, NameMap.contains, agree.collection]

theorem nextKey_eq : s₁.nextKey env₁ = s₂.nextKey env₂ :=
  agree.key 0

theorem setCollection (c : Collection) :
    Agree name env₁ env₂ origin₁ origin₂ (s₁.setCollection name c) (s₂.setCollection name c) where
  collection := by
    rw [setCollection_collections, setCollection_collections, NameMap.get?_insert_self,
      NameMap.get?_insert_self]
  pattern := agree.pattern
  key := agree.key
  others₁ other ne := by
    rw [setCollection_collections, NameMap.get?_insert_of_ne ne, agree.others₁ other ne]
  others₂ other ne := by
    rw [setCollection_collections, NameMap.get?_insert_of_ne ne, agree.others₂ other ne]

theorem countKey (document : Fields) :
    Agree name env₁ env₂ origin₁ origin₂ (s₁.countKey document) (s₂.countKey document) where
  collection := by rw [countKey_collections, countKey_collections, agree.collection]
  pattern := agree.pattern
  key n := by
    unfold Store.countKey
    split
    case isTrue => simpa only [Nat.add_assoc, Nat.add_comm 1 n] using agree.key (n + 1)
    case isFalse => exact agree.key n
  others₁ := by rw [countKey_collections]; exact agree.others₁
  others₂ := by rw [countKey_collections]; exact agree.others₂

theorem change (operation : Collection → Except Error α × Collection) :
    SameOutcome (Agree name env₁ env₂ origin₁ origin₂) (s₁.change name operation)
      (s₂.change name operation) := by
  rw [Store.change, Store.change, agree.collection_eq]
  cases s₂.collection name with
  | error e => exact .of_related _ agree
  | ok c => exact .of_related _ (agree.setCollection _)

theorem insert (document : Fields) : SameOutcome (Agree name env₁ env₂ origin₁ origin₂)
    (s₁.insert env₁ name document) (s₂.insert env₂ name document) := by
  have ⟨result, t₁, t₂, eq₁, eq₂, agree'⟩ := agree.change (·.insert name (s₂.nextKey env₂) document)
  rw [Store.insert, Store.insert, agree.nextKey_eq, eq₁, eq₂]
  cases result with
  | error e => exact .of_related _ agree'
  | ok stored => exact .of_related _ (agree'.countKey document)

theorem patterns_eq (plan : Plan) : plan.patterns env₁ = plan.patterns env₂ := by
  have same (f : Filter) : f.pattern env₁ = f.pattern env₂ := by
    simp only [Filter.pattern, Filter.readPattern, agree.pattern]
  simp only [Plan.patterns, same]

theorem find_eq (plan : Plan) : s₁.find env₁ name plan = s₂.find env₂ name plan := by
  simp only [Store.find, Plan.select, agree.collection_eq, agree.patterns_eq]

theorem all_eq (sorts : List SortKey) : s₁.all name sorts = s₂.all name sorts := by
  rw [Store.all, Store.all, agree.collection_eq]

-- Whichever collection an id is of, no other one is looked at.
theorem document_eq (id : String) : s₁.document name id = s₂.document name id := by
  unfold Store.document
  split
  case h_1 => rfl
  case h_2 owner key _ =>
    by_cases own : owner = name
    case pos => rw [own, agree.collection]
    case neg => simp only [ne_eq, own, not_false_eq_true, if_true]

theorem query {q : Query} (own : q.collection = name) :
    SameOutcome (Agree name env₁ env₂ origin₁ origin₂) (s₁.query env₁ q) (s₂.query env₂ q) := by
  unfold Store.query
  rw [own]
  cases q.statement with
  | find plan =>
    simp only [agree.find_eq]
    exact .of_related _ agree
  | all sorts =>
    simp only [agree.all_eq]
    exact .of_related _ agree
  | document id =>
    simp only [agree.document_eq]
    exact .of_related _ agree
  | insert document => exact (agree.insert document).map _
  | update key patch => exact (agree.change (·.update name key patch)).map _
  | remove key => exact (agree.change (·.remove name key)).map _

theorem createCollection (kind : CollectionKind) :
    SameOutcome (Agree name env₁ env₂ origin₁ origin₂)
    (s₁.createCollection name kind) (s₂.createCollection name kind) := by
  rw [Store.createCollection, Store.createCollection, agree.contains_eq]
  split
  case isTrue => exact .of_related _ agree
  case isFalse => exact .of_related _ (agree.setCollection _)

theorem createIndex (index : Index) : SameOutcome (Agree name env₁ env₂ origin₁ origin₂)
    (s₁.createIndex name index) (s₂.createIndex name index) := by
  rw [Store.createIndex, Store.createIndex]
  split
  case h_1 => exact .of_related _ agree
  case h_2 => exact agree.change _

theorem insertAll (documents : List Fields) : SameOutcome (Agree name env₁ env₂ origin₁ origin₂)
    (s₁.insertAll env₁ name documents) (s₂.insertAll env₂ name documents) := by
  induction documents generalizing s₁ s₂ with
  | nil => exact .of_related _ agree
  | cons document documents ih =>
    have ⟨result, t₁, t₂, eq₁, eq₂, agree⟩ := agree.insert document
    have ⟨summary, u₁, u₂, eqs₁, eqs₂, agree⟩ := ih agree
    simp only [Store.insertAll, eq₁, eq₂, eqs₁, eqs₂]
    cases result <;> exact .of_related _ agree

theorem importDocuments (documents : List Fields) :
    SameOutcome (Agree name env₁ env₂ origin₁ origin₂)
      (s₁.importDocuments env₁ name documents) (s₂.importDocuments env₂ name documents) := by
  rw [Store.importDocuments, Store.importDocuments, agree.collection_eq]
  cases s₂.collection name with
  | error e => exact .of_related _ agree
  | ok c =>
    have ⟨summary, t₁, t₂, eq₁, eq₂, agree⟩ := agree.insertAll documents
    simp only [eq₁, eq₂]
    exact .of_related _ agree

end

theorem agreesOn_connector (name : String) (env₁ env₂ : Environment) (origin₁ origin₂ : Store) :
    (connector env₁).AgreesOn name (connector env₂) (Agree name env₁ env₂ origin₁ origin₂) where
  query own agree := (agree.query own).map _
  hasCollection {s₁ s₂} agree := by
    simp only [connector, agree.contains_eq]
    exact .of_related _ agree
  createCollection kind _ _ agree := agree.createCollection kind
  indexes {s₁ s₂} agree := by
    simp only [connector, Store.indexes, agree.collection_eq]
    exact .of_related _ agree
  createIndex index _ _ agree := agree.createIndex index
  importDocuments documents _ _ agree := agree.importDocuments documents

end Agree

end Store
end RecordStore
