import RecordStore.Error
import RecordStore.Unicode.Property

-- Ids and keys of documents.
--
-- An id is the name of a collection and a key with a slash between them. In an id, the
-- name is a word.

namespace RecordStore

-- The attributes that identify documents and the ends of edges.
def idAttribute : String := "_id"
def keyAttribute : String := "_key"
def fromAttribute : String := "_from"
def toAttribute : String := "_to"

-- Reserved names are never the names of user fields.
def isReserved (field : String) : Bool :=
  match field.toList with
  | '_' :: _ => true
  | '$' :: _ => true
  | _ => field == "to_json" || field == "to_string"

namespace Id

def isWordCharacter (c : Char) : Bool := Unicode.isAlphanumeric c || c == '_'

def isWord (name : List Char) : Bool := !name.isEmpty && name.all isWordCharacter

-- The key is all that follows the first slash.
def splitChars? (id : List Char) : Option (List Char × List Char) :=
  let name := id.takeWhile (· != '/')
  match id.dropWhile (· != '/') with
  | _ :: key => if isWord name && !key.isEmpty then some (name, key) else none
  | [] => none

def split? (id : String) : Option (String × String) :=
  (splitChars? id.toList).map fun (name, key) => (.ofList name, .ofList key)

def of (collection key : String) : String := collection ++ "/" ++ key

-- The key of an id of the given collection.
def keyOf (collection id : String) : Except Error String :=
  match split? id with
  | some (name, key) => if name = collection then .ok key else .error (.foreignId collection id)
  | none => .error (.foreignId collection id)

-- A reference is an id of the given collection, or else a key.
def keyOfReference (collection reference : String) : Except Error String :=
  if reference.isEmpty then .error .missingReference
  else match split? reference with
    | some _ => keyOf collection reference
    | none => .ok reference

end Id

end RecordStore
