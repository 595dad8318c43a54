import RecordStore.Error

-- Names that say what is asked for.
--
-- A finder or continuation names a field and a comparator, a sorter names a field and a direction.
-- The comparator is the longest one that the name can end in and still name a field.

namespace RecordStore

structure Predicate where
  field : String
  comparator : Comparator
deriving DecidableEq

inductive Direction where
  | ascending
  | descending
deriving DecidableEq

namespace Direction

def suffix : Direction → String
  | ascending => "Asc"
  | descending => "Desc"

def keyword : Direction → String
  | ascending => "ASC"
  | descending => "DESC"

end Direction

structure SortKey where
  field : String
  direction : Direction
deriving DecidableEq

namespace Name

def isWord (c : Char) : Bool := c.isAlphanum || c == '_'

def isInitial (c : Char) : Bool := c.isUpper || c == '_'

-- What follows a given beginning.
def after? (start cs : List Char) : Option (List Char) :=
  if start.isPrefixOf cs then some (cs.drop start.length) else none

-- What precedes a given end.
def before? (ending cs : List Char) : Option (List Char) :=
  if ending.isSuffixOf cs then some (cs.take (cs.length - ending.length)) else none

-- Splits a word at the first place from which on it spells a comparator.
def splitComparator : List Char → List Char × Comparator
  | [] => ([], .equal)
  | c :: cs =>
    match Comparator.ofSpelling? (c :: cs) with
    | some comparator => ([], comparator)
    | none =>
      let (field, comparator) := splitComparator cs
      (c :: field, comparator)

-- Fields begin with a lowercase letter, or with an underscore.
def uncapitalize : List Char → String
  | [] => ""
  | c :: cs => .ofList (c.toLower :: cs)

def finder (name : String) : Except Error Predicate :=
  match after? "findBy".toList name.toList with
  | some (c :: cs) =>
    if isInitial c && cs.all isWord then
      let (field, comparator) := splitComparator cs
      .ok ⟨uncapitalize (c :: field), comparator⟩
    else .error (.malformedName .finder name)
  | _ => .error (.malformedName .finder name)

-- A continuation names its field as it is.
def continuation (name : String) : Except Error Predicate :=
  if name.toList.all isWord then
    let (field, comparator) := splitComparator name.toList
    if field.isEmpty then .error (.missingField name)
    else .ok ⟨.ofList field, comparator⟩
  else .error (.malformedName .continuation name)

-- No word ends in both suffixes.
def splitDirection? (cs : List Char) : Option (List Char × Direction) :=
  match before? Direction.ascending.suffix.toList cs with
  | some field => some (field, .ascending)
  | none => (before? Direction.descending.suffix.toList cs).map (·, .descending)

def sorter (name : String) : Except Error SortKey :=
  match after? "sortBy".toList name.toList with
  | some (c :: cs) =>
    match splitDirection? cs with
    | some (field, direction) =>
      if isInitial c && field.all isWord then .ok ⟨uncapitalize (c :: field), direction⟩
      else .error (.malformedName .sorter name)
    | none => .error (.malformedName .sorter name)
  | _ => .error (.malformedName .sorter name)

end Name

end RecordStore
