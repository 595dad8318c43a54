import RecordStore.Value

namespace RecordStore

structure Index where
  type : String
  fields : List String
  options : Fields

namespace Index

def new (type : String) (fields : List String) : Index where
  type := type
  fields := fields
  options := ∅

def setOption (index : Index) (name : String) (value : Value) : Index :=
  { index with options := index.options.insert name value }

-- An option counts as set only if it is `true` itself.
def hasOption (index : Index) (name : String) : Bool :=
  ((index.options.get? name).map Value.isTrue).getD false

-- Whether the other index has the same type and covers the same fields. Options do not count.
def Matches (index other : Index) : Prop :=
  index.type = other.type ∧ index.fields.length = other.fields.length ∧
    ∀ f ∈ index.fields, f ∈ other.fields

instance : Decidable (Matches index other) :=
  inferInstanceAs (Decidable (_ ∧ _))

-- The declared indexes that match none of the existing ones.
def missing (declared existing : List Index) : List Index :=
  declared.filter fun index => !existing.any fun other => index.Matches other

-- Options are members beside the type and the fields.
def toFields (index : Index) : Fields :=
  (index.options.insert "type" (.string index.type)).insert "fields" (.ofStrings index.fields)

def toValue (index : Index) : Value := .object index.toFields

end Index

end RecordStore
