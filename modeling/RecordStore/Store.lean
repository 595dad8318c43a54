import RecordStore.Query
import RecordStore.Store.Collection

-- Stores: collections by their names.
--
-- A store answers queries by their statements. Every operation returns the store as it is
-- afterwards, also where it fails.

namespace RecordStore

-- The collections by their names, and how many documents have been stored under generated keys.
structure Store where
  collections : NameMap Collection
  generated : Nat

-- How many documents an import has stored and rejected.
structure ImportSummary where
  created : Nat
  errors : Nat
deriving DecidableEq

namespace Store

def empty : Store where
  collections := ∅
  generated := 0

variable (env : Environment)

def collection (store : Store) (name : String) : Except Error Collection :=
  match store.collections.get? name with
  | some c => .ok c
  | none => .error (.collectionNotFound name)

def setCollection (store : Store) (name : String) (c : Collection) : Store :=
  { store with collections := store.collections.insert name c }

-- Runs an operation on a collection and puts the collection back as it is afterwards.
def change (store : Store) (name : String) (operation : Collection → Except Error α × Collection) :
    Except Error α × Store :=
  match store.collection name with
  | .error e => (.error e, store)
  | .ok c =>
    let (result, c) := operation c
    (result, store.setCollection name c)

def needsKey (document : Fields) : Bool := !document.contains keyAttribute

-- The next key to be generated. It is used up when a document is stored under it.
def nextKey (store : Store) : String := env.key store.generated

def countKey (store : Store) (document : Fields) : Store :=
  if needsKey document then { store with generated := store.generated + 1 } else store

def insert (store : Store) (name : String) (document : Fields) : Except Error Fields × Store :=
  match store.change name (·.insert name (store.nextKey env) document) with
  | (.ok stored, store) => (.ok stored, store.countKey document)
  | (.error e, store) => (.error e, store)

def update (store : Store) (name key : String) (patch : Fields) : Except Error Unit × Store :=
  store.change name (·.update name key patch)

def remove (store : Store) (name key : String) : Except Error Unit × Store :=
  store.change name (·.remove name key)

def find (store : Store) (name : String) (plan : Plan) : Except Error (List Fields) := do
  let c ← store.collection name
  plan.select env c.documents

def all (store : Store) (name : String) (sorts : List SortKey) : Except Error (List Fields) := do
  let c ← store.collection name
  return sortDocuments sorts c.documents

-- The document of an id. It is `false` if the id is not of the collection, and `null`
-- if there is none.
def document (store : Store) (name id : String) : Value :=
  match Id.split? id with
  | none => .bool false
  | some (owner, key) =>
    if owner ≠ name then .bool false
    else match (store.collections.get? owner).bind (·.find? key) with
      | some document => .object document
      | none => .null

def query (store : Store) (q : Query) : Except Error (List Value) × Store :=
  match q.statement with
  | .find plan => ((store.find env q.collection plan).map (·.map .object), store)
  | .all sorts => ((store.all q.collection sorts).map (·.map .object), store)
  | .document id => (.ok [store.document q.collection id], store)
  | .insert document =>
    let (result, store) := store.insert env q.collection document
    (result.map fun stored => [.object stored], store)
  | .update key patch =>
    let (result, store) := store.update q.collection key patch
    (result.map fun () => [], store)
  | .remove key =>
    let (result, store) := store.remove q.collection key
    (result.map fun () => [], store)

def createCollection (store : Store) (name : String) (kind : CollectionKind) :
    Except Error Unit × Store :=
  if store.collections.contains name then (.error (.collectionAlreadyExists name), store)
  else (.ok (), store.setCollection name (.new kind))

-- Whether there has been a collection is found out by its removal.
def dropCollection (store : Store) (name : String) : Except Error Unit × Store :=
  (if store.collections.contains name then .ok () else .error (.collectionNotFound name),
    { store with collections := store.collections.erase name })

def indexes (store : Store) (name : String) : Except Error (List Index) := do
  return (← store.collection name).indexes

def createIndex (store : Store) (name : String) (index : Index) : Except Error Unit × Store :=
  match index.validate with
  | .error e => (.error e, store)
  | .ok () => store.change name fun c => (.ok (), c.createIndex index)

-- Documents that cannot be inserted are counted and passed over.
def insertAll (store : Store) (name : String) : List Fields → ImportSummary × Store
  | [] => (⟨0, 0⟩, store)
  | document :: documents =>
    let (result, store) := store.insert env name document
    let (summary, store) := store.insertAll name documents
    match result with
    | .ok _ => ({ summary with created := summary.created + 1 }, store)
    | .error _ => ({ summary with errors := summary.errors + 1 }, store)

def importDocuments (store : Store) (name : String) (documents : List Fields) :
    Except Error ImportSummary × Store :=
  match store.collection name with
  | .error e => (.error e, store)
  | .ok _ =>
    let (summary, store) := store.insertAll env name documents
    (.ok summary, store)

end Store

end RecordStore
