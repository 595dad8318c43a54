import RecordStore.Record.Saving

namespace RecordStore.Schema

variable {σ : Type}

-- Creates indexes one after the other, up to the first that fails.
def createIndexes (schema : Schema) (conn : Connector σ) : List Index → σ → Except Error Unit × σ
  | [], s => (.ok (), s)
  | index :: indexes, s =>
    match conn.createIndex schema.name index s with
    | (.error e, s) => (.error e, s)
    | (.ok (), s) => schema.createIndexes conn indexes s

-- Creates the declared indexes that do not exist yet, and returns them. Declared indexes are
-- checked before the store is asked for anything.
def applyIndexes (schema : Schema) (conn : Connector σ) (s : σ) : Except Error (List Index) × σ :=
  if schema.indexes.isEmpty then (.ok [], s)
  else match schema.indexes.forM Index.validate with
    | .error e => (.error e, s)
    | .ok () =>
      match conn.indexes schema.name s with
      | (.error e, s) => (.error e, s)
      | (.ok existing, s) =>
        let missing := Index.missing schema.indexes existing
        match schema.createIndexes conn missing s with
        | (.error e, s) => (.error e, s)
        | (.ok (), s) => (.ok missing, s)

def create (schema : Schema) (conn : Connector σ) (s : σ) : Except Error (List Index) × σ :=
  match conn.createCollection schema.name schema.kind s with
  | (.error e, s) => (.error e, s)
  | (.ok (), s) => schema.applyIndexes conn s

def exists? (schema : Schema) (conn : Connector σ) (s : σ) : Except Error Bool × σ :=
  conn.hasCollection schema.name s

def importDocuments (schema : Schema) (conn : Connector σ) (documents : List Fields) (s : σ) :
    Except Error ImportSummary × σ :=
  conn.importDocuments schema.name documents s

-- Every item becomes a record. The first item that is an error or no record fails the whole.
def records (schema : Schema) (cursor : Cursor) : Except Error (List Record) :=
  cursor.mapM fun item => do Record.ofValue schema (← item)

def fetch (schema : Schema) (conn : Connector σ) (q : Query) (s : σ) :
    Except Error (List Record) × σ :=
  let (answer, s) := conn.query q s
  (answer.bind schema.records, s)

def find (schema : Schema) (conn : Connector σ) (plan : Plan) (s : σ) :
    Except Error (List Record) × σ :=
  schema.fetch conn (.find schema.name plan) s

def all (schema : Schema) (conn : Connector σ) (sorts : List SortKey) (s : σ) :
    Except Error (List Record) × σ :=
  schema.fetch conn (.all schema.name sorts) s

def get (schema : Schema) (conn : Connector σ) (id : String) (s : σ) :
    Except Error (Option Record) × σ :=
  let (document, s) := schema.readDocument conn id s
  (document.bind fun d => d.mapM (Record.ofFields schema), s)

-- References are ids or keys.
def delete (schema : Schema) (conn : Connector σ) (reference : String) (s : σ) :
    Except Error Unit × σ :=
  match schema.keyOfReference reference with
  | .error e => (.error e, s)
  | .ok key =>
    let (answer, s) := conn.query (.remove schema.name key) s
    (answer.bind fun cursor => cursor.toList.map fun _ => (), s)

end RecordStore.Schema
