import RecordStore.Query.Chain
import RecordStore.Query.Request
import RecordStore.Schema.Hook

-- Sessions: steps on collections, records and the store, taken one after the other.
--
-- Queries go through a connector that notes them and gives the replies that have been scripted.

namespace RecordStore

inductive CollectionStep where
  | info
  | create
  | applyIndexes
  | exists
  | importDocuments (documents : List Fields)
  | all (sorts : List SortKey) (saveAs : Option String)
  | find (name : String) (givens : List Given) (calls : List Plan.Call) (saveAs : Option String)
  | compile (name : String) (givens : List Given) (calls : List Plan.Call)
  | get (id saveAs : String)
  | getFields (id : String)
  | delete (reference : String)
  | record (reference : Value) (saveAs : String)

inductive RecordStep where
  | show
  | set (field : String) (value : Value)
  | field (name : String)
  | system (name : String)
  | save
  | refresh
  | fields (omitted : List String)
  | text

inductive StoreStep where
  | createCollection (name : String) (kind : CollectionKind)
  | dropCollection (name : String)
  | hasCollection (name : String)
  | indexes (name : String)
  | createIndex (name : String) (index : Value)
  | importDocuments (name : String) (documents : List Fields)
  | dump (name : String)
  | query (name : String) (request : Request)
  | script (replies : List Reply)

inductive Step where
  | onCollection (name : String) (step : CollectionStep)
  | onRecord (name : String) (step : RecordStep)
  | onStore (step : StoreStep)

inductive Answer where
  | nothing
  | flag (b : Bool)
  | indexes (indexes : List Index)
  | schema (schema : Schema)
  | summary (summary : ImportSummary)
  | records (records : List Record)
  | query (q : Query)
  | record (r : Record)
  | fields (fields : Fields)
  | values (values : List Value)
  | text (text : String)

-- Why a step has no answer.
inductive Failure where
  | error (e : Error)
  | noSchema
  | noRecord
  | noPlan

abbrev Outcome := Except Failure Answer

def Outcome.of (answer : α → Answer) : Except Error α → Outcome
  | .ok a => .ok (answer a)
  | .error e => .error (.error e)

structure Session where
  schemas : List Schema
  -- Every record is kept with the schema that it was built with.
  records : NameMap (Schema × Record)
  world : Scripted Store

namespace Session

def new (schemas : List Schema) : Session where
  schemas := schemas
  records := ∅
  world := ⟨.empty, [], []⟩

variable (env : Environment)

def conn : Connector (Scripted Store) := Scripted.connector (Store.connector env)

def schema? (s : Session) (name : String) : Option Schema :=
  s.schemas.find? (·.name == name)

def record? (s : Session) (name : String) : Option Record :=
  (s.records.get? name).map (·.2)

def collection? (s : Session) (name : String) : Option Collection :=
  s.world.state.collections.get? name

def keep (s : Session) (schema : Schema) (name : String) (r : Record) : Session :=
  { s with records := s.records.insert name (schema, r) }

-- Several records are kept under one name followed by their positions.
def keepAll (s : Session) (schema : Schema) (saveAs : Option String) (records : List Record) :
    Session :=
  match saveAs with
  | some name =>
    records.zipIdx.foldl (fun s (r, i) => s.keep schema (name ++ toString i) r) s
  | none => s

-- Runs an operation on the store behind the connector.
def run (s : Session) (operation : Scripted Store → Except Error α × Scripted Store) :
    Except Error α × Session :=
  let (result, world) := operation s.world
  (result, { s with world := world })

def answer (s : Session) (answer : α → Answer)
    (operation : Scripted Store → Except Error α × Scripted Store) : Outcome × Session :=
  let (result, s) := s.run operation
  (.of answer result, s)

def answerRecords (s : Session) (schema : Schema) (saveAs : Option String)
    (operation : Scripted Store → Except Error (List Record) × Scripted Store) :
    Outcome × Session :=
  match s.run operation with
  | (.ok records, s) => (.ok (.records records), s.keepAll schema saveAs records)
  | (.error e, s) => (.error (.error e), s)

-- The query that is opened by a finder and extended by calls.
def openQuery (schema : Schema) (name : String) (givens : List Given) (calls : List Plan.Call) :
    Except Failure OpenQuery :=
  match Chain.ofCalls? name givens calls with
  | some chain => (chain.run schema).mapError .error
  | none => .error .noPlan

def stepCollection (s : Session) (schema : Schema) : CollectionStep → Outcome × Session
  | .info => (.ok (.schema schema), s)
  | .create => s.answer .indexes (schema.create (conn env))
  | .applyIndexes => s.answer .indexes (schema.applyIndexes (conn env))
  | .exists => s.answer .flag (schema.exists? (conn env))
  | .importDocuments documents => s.answer .summary (schema.importDocuments (conn env) documents)
  | .all sorts saveAs => s.answerRecords schema saveAs (schema.all (conn env) sorts)
  | .find name givens calls saveAs =>
    match openQuery schema name givens calls with
    | .ok q => s.answerRecords schema saveAs (q.run (conn env))
    | .error e => (.error e, s)
  | .compile name givens calls =>
    ((openQuery schema name givens calls).map fun q => .query q.compile, s)
  | .get id saveAs =>
    match s.run (schema.get (conn env) id) with
    | (.ok (some r), s) => (.ok (.record r), s.keep schema saveAs r)
    | (.ok none, s) => (.ok .nothing, s)
    | (.error e, s) => (.error (.error e), s)
  | .getFields id =>
    s.answer (fun found => found.elim .nothing .fields) (schema.readDocument (conn env) id)
  | .delete reference => s.answer (fun _ => .nothing) (schema.delete (conn env) reference)
  | .record reference saveAs =>
    match Record.ofValue schema reference with
    | .ok r => (.ok (.record r), s.keep schema saveAs r)
    | .error e => (.error (.error e), s)

-- An absent value is told apart from `null` by being no list of one value.
def answerValue (v : Option Value) : Answer :=
  match v with
  | some v => .values [v]
  | none => .nothing

-- Keeps the record as it is after an operation, also if that has failed.
def changeRecord (s : Session) (schema : Schema) (name : String)
    (operation : Scripted Store → Except Error Unit × Record × Scripted Store) :
    Outcome × Session :=
  let (result, r, world) := operation s.world
  (.of (fun _ => .nothing) result, { s with world := world }.keep schema name r)

def stepRecord (s : Session) (name : String) (schema : Schema) (r : Record) :
    RecordStep → Outcome × Session
  | .show => (.ok .nothing, s)
  | .set field value =>
    match r.set field value with
    | .ok (changed, r) => (.ok (.flag changed), s.keep schema name r)
    | .error e => (.error (.error e), s)
  | .field field => (.ok (answerValue (r.fields.get? field)), s)
  | .system field => (.ok (answerValue (r.system.get? field)), s)
  | .save => s.changeRecord schema name (r.save schema (conn env))
  | .refresh => s.changeRecord schema name (r.refresh schema (conn env))
  | .fields omitted => (.ok (.fields (r.toFields omitted)), s)
  | .text => (.ok (.text r.text), s)

def stepStore (s : Session) : StoreStep → Outcome × Session
  | .createCollection name kind =>
    s.answer (fun _ => .nothing) ((conn env).createCollection name kind)
  | .dropCollection name => s.answer (fun _ => .nothing) ((conn env).dropCollection name)
  | .hasCollection name => s.answer .flag ((conn env).hasCollection name)
  | .indexes name => s.answer .indexes ((conn env).indexes name)
  | .createIndex name index =>
    match Index.ofValue index with
    | .ok index => s.answer (fun _ => .nothing) ((conn env).createIndex name index)
    | .error e => (.error (.error e), s)
  | .importDocuments name documents =>
    s.answer .summary ((conn env).importDocuments name documents)
  | .dump name =>
    (.of (fun documents => .values (documents.map .object)) (s.world.state.all name []), s)
  | .query name request =>
    match request.query? name with
    | some (.ok q) =>
      s.answer .values fun world =>
        let (answer, world) := (conn env).query q world
        (answer.bind Cursor.toList, world)
    | some (.error e) => (.error (.error e), s)
    | none => (.error .noPlan, s)
  | .script replies =>
    (.ok .nothing, { s with world := { s.world with replies := s.world.replies ++ replies } })

-- Queries are noted step by step.
def forgetSent (s : Session) : Session :=
  { s with world := { s.world with sent := [] } }

def step (s : Session) (step : Step) : Outcome × Session :=
  let s := s.forgetSent
  match step with
  | .onCollection name step =>
    match s.schema? name with
    | some schema => stepCollection env s schema step
    | none => (.error .noSchema, s)
  | .onRecord name step =>
    match s.records.get? name with
    | some (schema, r) => stepRecord env s name schema r step
    | none => (.error .noRecord, s)
  | .onStore step => stepStore env s step

end Session

end RecordStore
