import RecordStore.CollectionKind
import RecordStore.Index
import RecordStore.Unicode.Case

-- Declarations: collections described by attributes of an identifier.
--
-- The attributes are read from left to right, and the first error wins. Of what is given more than
-- once, the last counts.

namespace RecordStore

inductive Literal where
  | string (s : String)
  | bool (b : Bool)
  | int (i : Int)

-- An item `path (nested, ...) = value`, of which all but the path may be missing.
inductive Meta where
  | mk (path : String) (nested : Option (List Meta)) (value : Option Literal)

namespace Meta

def path : Meta → String
  | mk p _ _ => p

def nested : Meta → Option (List Meta)
  | mk _ n _ => n

def value : Meta → Option Literal
  | mk _ _ v => v

-- The string that directly follows the path.
def string? : Meta → Option String
  | mk _ none (some (.string s)) => some s
  | _ => none

-- Whether the item ends with its path.
def isBare : Meta → Bool
  | mk _ none none => true
  | _ => false

end Meta

-- An attribute of an identifier. Those that are not about collections are passed over.
inductive Attribute where
  | other
  | bare
  | collection (items : List Meta)

inductive DeclarationError where
  | malformed
  | emptyName
  | unknownItem
  | emptyFieldName
  | unknownIndexItem
  | missingFields
deriving DecidableEq

-- Malformed attributes are not described any further.
def DeclarationError.message? : DeclarationError → Option String
  | malformed => none
  | emptyName => some "collection name must not be empty"
  | unknownItem => some "expected `name`, `edge` or `index`"
  | emptyFieldName => some "index fields must be a comma separated list of names"
  | unknownIndexItem => some "expected `kind`, `fields`, `unique` or `sparse`"
  | missingFields => some "index requires `fields = \"...\"`"

structure Declaration where
  name : String
  kind : CollectionKind
  indexes : List Index

namespace Declaration

-- Every uppercase character but the first is set apart by an underscore.
def snakeCaseRest : List Char → List Char
  | [] => []
  | c :: cs =>
    (if Unicode.isUppercase c then '_' :: Unicode.lowercase c else [c]) ++ snakeCaseRest cs

def snakeCase (ident : String) : String :=
  match ident.toList with
  | [] => ""
  | c :: cs =>
    .ofList ((if Unicode.isUppercase c then Unicode.lowercase c else [c]) ++ snakeCaseRest cs)

def trim (cs : List Char) : List Char :=
  ((cs.dropWhile Unicode.isWhiteSpace).reverse.dropWhile Unicode.isWhiteSpace).reverse

-- The names of fields are separated by commas.
def fieldNames (text : String) : List String :=
  (Unicode.parts ',' text.toList).map fun name => .ofList (trim name)

-- What is known of an index while its items are read.
structure IndexDraft where
  type : Option String
  fields : Option (List String)
  options : Fields

def IndexDraft.setOption (draft : IndexDraft) (name : String) (value : Bool) : IndexDraft :=
  { draft with options := draft.options.insert name (.bool value) }

def IndexDraft.read (draft : IndexDraft) (item : Meta) : Except DeclarationError IndexDraft :=
  match item.path with
  | "kind" =>
    match item.string? with
    | some type => .ok { draft with type := some type }
    | none => .error .malformed
  | "fields" =>
    match item.string? with
    | some text =>
      let names := fieldNames text
      if names.any String.isEmpty then .error .emptyFieldName
      else .ok { draft with fields := some names }
    | none => .error .malformed
  | "unique" | "sparse" =>
    match item with
    | .mk name none none => .ok (draft.setOption name true)
    | .mk name none (some (.bool b)) => .ok (draft.setOption name b)
    | _ => .error .malformed
  | _ => .error .unknownIndexItem

def IndexDraft.toIndex (draft : IndexDraft) : Except DeclarationError Index :=
  match draft.fields with
  | some fields =>
    .ok { type := draft.type.getD "persistent", fields := fields, options := draft.options }
  | none => .error .missingFields

-- Nothing may follow the items of an index, which is checked after them.
def readIndex (item : Meta) : Except DeclarationError Index :=
  match item.nested with
  | none | some [] => .error .malformed
  | some items => do
    let draft ← items.foldlM IndexDraft.read { type := none, fields := none, options := ∅ }
    let index ← draft.toIndex
    if item.value.isSome then .error .malformed else .ok index

-- What is known of a collection while its attributes are read.
structure Draft where
  name : Option String
  edge : Bool
  indexes : List Index

def Draft.read (draft : Draft) (item : Meta) : Except DeclarationError Draft :=
  match item.path with
  | "name" =>
    match item.string? with
    | some name => if name.isEmpty then .error .emptyName else .ok { draft with name := some name }
    | none => .error .malformed
  | "edge" => if item.isBare then .ok { draft with edge := true } else .error .malformed
  | "index" => do
    let index ← readIndex item
    .ok { draft with indexes := draft.indexes ++ [index] }
  | _ => .error .unknownItem

def Draft.readAttribute (draft : Draft) : Attribute → Except DeclarationError Draft
  | .other => .ok draft
  | .bare => .error .malformed
  | .collection items => items.foldlM Draft.read draft

def Draft.toDeclaration (draft : Draft) (ident : String) : Declaration where
  name := draft.name.getD (snakeCase ident)
  kind := if draft.edge then .edge else .document
  indexes := draft.indexes

def ofAttributes (ident : String) (attributes : List Attribute) :
    Except DeclarationError Declaration := do
  let draft ← attributes.foldlM Draft.readAttribute { name := none, edge := false, indexes := [] }
  return draft.toDeclaration ident

end Declaration

end RecordStore
