import RecordStore.Id
import RecordStore.Value.Order
import RecordStore.Value.Text

-- Records: documents of a collection that know which of their fields have changed.
--
-- A record has an identity from the beginning if it is built from stored state, and otherwise gets
-- one when it is first saved. What is written by saving a record is its difference.

namespace RecordStore

structure Identity where
  id : String
  key : String
deriving DecidableEq

structure Record where
  identity : Option Identity
  -- The key that is asked for when the record is inserted.
  pendingKey : Option String
  -- The ends of an edge.
  source : Option String
  target : Option String
  fields : Fields
  -- Reserved attributes that are no part of the identity.
  system : Fields
  -- The names of the fields that have changed.
  dirty : NameSet

-- What a record is built from.
inductive Reference where
  | id (id : String)
  | fields (fields : Fields)

def Reference.ofValue : Value → Except Error Reference
  | .string s => .ok (.id s)
  | .object document => .ok (.fields document)
  | v => .error (.referenceType v.typeName)

namespace Record

def empty : Record where
  identity := none
  pendingKey := none
  source := none
  target := none
  fields := ∅
  system := ∅
  dirty := ∅

def isIdentified (r : Record) : Bool := r.identity.isSome

def id? (r : Record) : Option String := r.identity.map (·.id)

def key? (r : Record) : Option String := r.identity.map (·.key)

def isDirty (r : Record) : Bool := !r.dirty.isEmpty

def dirtyNames (r : Record) : List String := r.dirty.names

def setField (r : Record) (name : String) (value : Value) : Record :=
  { r with fields := r.fields.insert name value }

def setSystem (r : Record) (name : String) (value : Value) : Record :=
  { r with system := r.system.insert name value }

def markDirty (r : Record) (name : String) : Record :=
  { r with dirty := r.dirty.insert name () }

-- Assigns a field, and tells whether it has changed. To assign the same
-- value again changes nothing.
def set (r : Record) (name : String) (value : Value) : Except Error (Bool × Record) :=
  if isReserved name then .error (.reservedField name)
  else if (r.fields.get? name).any (·.same value) then .ok (false, r)
  else .ok (true, (r.setField name value).markDirty name)

-- The changed fields with their present values.
def changes (r : Record) : Fields :=
  r.fields.filter fun name _ => r.dirty.contains name

def insertIfSome (fields : Fields) (name : String) : Option String → Fields
  | some s => fields.insert name (.string s)
  | none => fields

-- What is to be written. Before the first insertion this includes the key and the ends of an edge.
def diff (r : Record) : Fields :=
  if r.isIdentified then r.changes
  else
    insertIfSome (insertIfSome (insertIfSome r.changes
      keyAttribute r.pendingKey) fromAttribute r.source) toAttribute r.target

-- The user fields together with the identity, without the names that are to be left out.
def toFields (r : Record) (omitted : List String) : Fields :=
  let user := r.fields.filter fun name _ => !isReserved name
  let identified :=
    insertIfSome (insertIfSome (insertIfSome (insertIfSome user
      "$id" r.id?) "$key" r.key?) "$from" r.source) "$to" r.target
  identified.filter fun name _ => !omitted.contains name

def text (r : Record) : String := (Value.object (r.toFields [])).text

end Record

end RecordStore
