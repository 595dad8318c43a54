import RecordStore.Schema

-- How records take over stored state, and how they are built.
--
-- Attributes are taken one after the other, in the order of their names, and those that precede a
-- wrong one have been taken over.

namespace RecordStore.Record

def stringAttribute (name : String) (v : Value) : Except Error String :=
  match v with
  | .string s => .ok s
  | _ => .error (.attributeType name v.typeName)

-- A record that is taking over stored state, with the identity that has been found so far.
structure Adoption where
  record : Record
  id : Option String
  key : Option String

namespace Adoption

def take (a : Adoption) (name : String) (v : Value) : Except Error Adoption :=
  if name = idAttribute then do return { a with id := some (← stringAttribute name v) }
  else if name = keyAttribute then do return { a with key := some (← stringAttribute name v) }
  else if name = fromAttribute then do
    return { a with record := { a.record with source := some (← stringAttribute name v) } }
  else if name = toAttribute then do
    return { a with record := { a.record with target := some (← stringAttribute name v) } }
  else if isReserved name then .ok { a with record := a.record.setSystem name v }
  else .ok { a with record := a.record.setField name v }

-- Takes attributes until one is wrong.
def takeAll (a : Adoption) : List (String × Value) → Except Error Unit × Adoption
  | [] => (.ok (), a)
  | (name, v) :: attrs =>
    match a.take name v with
    | .ok a => a.takeAll attrs
    | .error e => (.error e, a)

-- The key is the one that is given, or else the one that is part of the id.
def identity (a : Adoption) (schema : Schema) : Except Error Identity := do
  match a.id with
  | some id =>
    let derived ← schema.keyOf id
    return ⟨id, a.key.getD derived⟩
  | none => throw (.replyWithoutId schema.name)

end Adoption

-- Takes over a stored document. The identity is set last, so that it remains as it was on an error.
def adopt (schema : Schema) (r : Record) (document : Fields) : Except Error Unit × Record :=
  match Adoption.takeAll ⟨r, none, none⟩ document.entries with
  | (.error e, a) => (.error e, a.record)
  | (.ok (), a) =>
    match a.identity schema with
    | .ok identity => (.ok (), { a.record with identity := some identity, pendingKey := none })
    | .error e => (.error e, a.record)

-- Takes one field of a document that is not stored yet. User fields are new, so that they
-- are to be written.
def takeNew (schema : Schema) (r : Record) (name : String) (v : Value) : Except Error Record :=
  if name = keyAttribute then do return { r with pendingKey := some (← stringAttribute name v) }
  else if name = fromAttribute ∧ schema.kind = .edge then do
    return { r with source := some (← stringAttribute name v) }
  else if name = toAttribute ∧ schema.kind = .edge then do
    return { r with target := some (← stringAttribute name v) }
  else if isReserved name then .ok (r.setSystem name v)
  else .ok ((r.markDirty name).setField name v)

def ofId (schema : Schema) (id : String) : Except Error Record :=
  match schema.keyOf id with
  | .ok key => .ok { empty with identity := some ⟨id, key⟩ }
  | .error _ => .error (.malformedReference schema.name id)

-- Fields with an id are stored state.
def ofFields (schema : Schema) (fields : Fields) : Except Error Record :=
  if fields.contains idAttribute then
    match empty.adopt schema fields with
    | (.ok (), r) => .ok r
    | (.error e, _) => .error e
  else fields.entries.foldlM (fun r e => r.takeNew schema e.1 e.2) empty

def ofReference (schema : Schema) : Reference → Except Error Record
  | .id id => ofId schema id
  | .fields fields => ofFields schema fields

def ofValue (schema : Schema) (v : Value) : Except Error Record := do
  ofReference schema (← Reference.ofValue v)

end RecordStore.Record
