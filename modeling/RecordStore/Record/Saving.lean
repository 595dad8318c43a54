import RecordStore.Connector
import RecordStore.Record.Adoption

-- Saving and refreshing records.
--
-- Both return the record as it is afterwards also if they fail, since a reply may have been taken
-- over in part.

namespace RecordStore

-- Reads the stored document of an id, which has to be an id of the schema's collection.
def Schema.readDocument (schema : Schema) (conn : Connector σ) (id : String) (s : σ) :
    Except Error (Option Fields) × σ :=
  if id.isEmpty then (.error .missingId, s)
  else match schema.keyOf id with
    | .error _ => (.error (.idOfOtherCollection schema.name id), s)
    | .ok _ =>
      let (answer, s) := conn.query (.document schema.name id) s
      (answer.bind Cursor.first |>.bind fun item => match item with
        | none => .ok none
        | some .null => .ok none
        | some (.bool false) => .error (.idOfOtherCollection schema.name id)
        | some (.object document) => .ok (some document)
        | some v => .error (.documentType id v.typeName), s)

namespace Record

-- What has been written counts as the record's fields, and nothing is left to be written.
def written (r : Record) (diff : Fields) : Record :=
  { r with
    dirty := ∅
    fields := r.fields.override (diff.filter fun name _ => !isReserved name) }

-- The reply to an insertion is the stored document.
def takeReply (schema : Schema) (r : Record) (diff : Fields) (item : Option Value) :
    Except Error Unit × Record :=
  match item with
  | none => (.error (.missingReply schema.name), r)
  | some (.object document) =>
    match r.adopt schema document with
    | (.ok (), r) => (.ok (), r.written diff)
    | (.error e, r) => (.error e, r)
  | some v => (.error (.replyType schema.name v.typeName), r)

def insertInto (schema : Schema) (conn : Connector σ) (r : Record) (diff : Fields) (s : σ) :
    Except Error Unit × Record × σ :=
  match conn.query (.insert schema.name diff) s with
  | (.error e, s) => (.error e, r, s)
  | (.ok cursor, s) =>
    match cursor.first with
    | .error e => (.error e, r, s)
    | .ok item =>
      let (result, r) := r.takeReply schema diff item
      (result, r, s)

def updateIn (schema : Schema) (conn : Connector σ) (r : Record) (key : String) (diff : Fields)
    (s : σ) : Except Error Unit × Record × σ :=
  match conn.query (.update schema.name key diff) s with
  | (.error e, s) => (.error e, r, s)
  | (.ok cursor, s) =>
    match cursor.toList with
    | .error e => (.error e, r, s)
    | .ok _ => (.ok (), r.written diff, s)

-- Writes the difference, by an update if the record has an identity and by an insertion otherwise.
def save (schema : Schema) (conn : Connector σ) (r : Record) (s : σ) :
    Except Error Unit × Record × σ :=
  match schema.beforeSave r r.diff with
  | .error e => (.error e, r, s)
  | .ok diff =>
    if diff.isEmpty then (.ok (), r, s)
    else match r.key? with
      | none => r.insertInto schema conn diff s
      | some key => r.updateIn schema conn key diff s

-- Replaces all but the identity. Ends of an edge are taken over only if they are not known yet.
def refreshed (r : Record) (document : Fields) : Record :=
  let endpoint := fun (known : Option String) (name : String) =>
    known.or ((document.get? name).bind Value.string?)
  let isIdentity := fun (name : String) =>
    name == idAttribute || name == keyAttribute || name == fromAttribute || name == toAttribute
  { r with
    source := endpoint r.source fromAttribute
    target := endpoint r.target toAttribute
    fields := document.filter fun name _ => !isReserved name
    system := document.filter fun name _ => isReserved name && !isIdentity name
    dirty := ∅ }

-- Reads the record again. It remains as it is if it is stored no more.
def refresh (schema : Schema) (conn : Connector σ) (r : Record) (s : σ) :
    Except Error Unit × Record × σ :=
  match r.id? with
  | none => (.error .missingId, r, s)
  | some id =>
    match schema.readDocument conn id s with
    | (.error e, s) => (.error e, r, s)
    | (.ok none, s) => (.ok (), r, s)
    | (.ok (some document), s) => (.ok (), r.refreshed document, s)

end Record

end RecordStore
