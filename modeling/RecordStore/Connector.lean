import RecordStore.Store

-- Connectors: all that records and their collections need of a store.
--
-- A connector may be in any state, and it may answer as it likes.

namespace RecordStore

-- The items of an answer, of which each may be an error.
abbrev Cursor := List (Except Error Value)

namespace Cursor

def first (cursor : Cursor) : Except Error (Option Value) :=
  match cursor with
  | [] => .ok none
  | .ok v :: _ => .ok (some v)
  | .error e :: _ => .error e

-- The items up to the end, unless one of them is an error.
def toList (cursor : Cursor) : Except Error (List Value) :=
  cursor.mapM id

end Cursor

structure Connector (σ : Type) where
  query : Query → σ → Except Error Cursor × σ
  hasCollection : String → σ → Except Error Bool × σ
  createCollection : String → CollectionKind → σ → Except Error Unit × σ
  dropCollection : String → σ → Except Error Unit × σ
  indexes : String → σ → Except Error (List Index) × σ
  createIndex : String → Index → σ → Except Error Unit × σ
  importDocuments : String → List Fields → σ → Except Error ImportSummary × σ

namespace Store

def connector (env : Environment) : Connector Store where
  query q store :=
    let (result, store) := store.query env q
    (result.map (·.map .ok), store)
  hasCollection name store := (.ok (store.collections.contains name), store)
  createCollection name kind store := store.createCollection name kind
  dropCollection name store := store.dropCollection name
  indexes name store := (store.indexes name, store)
  createIndex name index store := store.createIndex name index
  importDocuments name documents store := store.importDocuments env name documents

end Store

-- A reply that is given instead of an answer: a failure, or the items of the answer.
abbrev Reply := Except Error Cursor

-- A state together with the replies that are to be given next, and the queries that have been sent.
structure Scripted (σ : Type) where
  state : σ
  replies : List Reply
  sent : List Query

namespace Scripted

def lift (run : σ → α × σ) (s : Scripted σ) : α × Scripted σ :=
  let (result, state) := run s.state
  (result, { s with state := state })

-- Every query is noted, and as long as there are replies, it is answered by the next one.
def query (inner : Connector σ) (q : Query) (s : Scripted σ) : Except Error Cursor × Scripted σ :=
  let s := { s with sent := s.sent ++ [q] }
  match s.replies with
  | reply :: replies => (reply, { s with replies := replies })
  | [] => lift (inner.query q) s

def connector (inner : Connector σ) : Connector (Scripted σ) where
  query := query inner
  hasCollection name := lift (inner.hasCollection name)
  createCollection name kind := lift (inner.createCollection name kind)
  dropCollection name := lift (inner.dropCollection name)
  indexes name := lift (inner.indexes name)
  createIndex name index := lift (inner.createIndex name index)
  importDocuments name documents := lift (inner.importDocuments name documents)

end Scripted

end RecordStore
