import RecordStore.Error

namespace RecordStore.Index

-- An index has a type and at least one field, and none of its fields is without a name.
def validate (index : Index) : Except Error Unit :=
  if index.type.isEmpty then .error (.emptyIndexType index)
  else if index.fields.isEmpty || index.fields.any String.isEmpty then
    .error (.emptyIndexFields index.fields)
  else .ok ()

def ofFields (members : Fields) : Except Error Index :=
  match members.get? "type", members.get? "fields" with
  | none, _ => .error (.missingMember "type")
  | _, none => .error (.missingMember "fields")
  | some type, some fields =>
    match type.string?, fields.strings? with
    | some type, some fields =>
      .ok { type := type, fields := fields, options := (members.erase "type").erase "fields" }
    | none, _ => .error (.memberType "type")
    | _, none => .error (.memberType "fields")

def ofValue (v : Value) : Except Error Index :=
  match v.fields? with
  | some members => ofFields members
  | none => .error (.memberType "index")

end RecordStore.Index
