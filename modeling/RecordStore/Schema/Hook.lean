import RecordStore.Schema

namespace RecordStore

-- A hook that fails, or else leaves out, sets and finally clears fields of a difference.
structure Hook where
  failure : Option (RaisedKind × String)
  removed : List String
  set : Fields
  clear : Bool

namespace Hook

def none : Hook where
  failure := .none
  removed := []
  set := ∅
  clear := false

def apply (hook : Hook) (diff : Fields) : Except Error Fields :=
  match hook.failure with
  | some (kind, text) => .error (.raised kind text)
  | .none =>
    if hook.clear then .ok ∅
    else .ok ((diff.filter fun name _ => !hook.removed.contains name).override hook.set)

end Hook

def Schema.withHook (schema : Schema) (hook : Hook) : Schema :=
  { schema with beforeSave := fun _ diff => hook.apply diff }

end RecordStore
