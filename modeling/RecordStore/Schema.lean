import RecordStore.CollectionKind
import RecordStore.Declaration
import RecordStore.Record

namespace RecordStore

structure Schema where
  name : String
  kind : CollectionKind
  indexes : List Index
  -- Sees every difference before it is written. What it returns is written instead.
  beforeSave : Record → Fields → Except Error Fields

namespace Schema

def writeUnchanged (_ : Record) (diff : Fields) : Except Error Fields := .ok diff

def ofDeclaration (d : Declaration) : Schema where
  name := d.name
  kind := d.kind
  indexes := d.indexes
  beforeSave := writeUnchanged

def keyOf (schema : Schema) (id : String) : Except Error String :=
  Id.keyOf schema.name id

def keyOfReference (schema : Schema) (reference : String) : Except Error String :=
  Id.keyOfReference schema.name reference

def idOf (schema : Schema) (key : String) : String :=
  Id.of schema.name key

end Schema

end RecordStore
