namespace RecordStore

inductive Comparator where
  | equal
  | notEqual
  | greaterThan
  | greaterThanOrEqual
  | lesserThan
  | lesserThanOrEqual
  | matching
  | notMatching
  | containing
  | notContaining
  | containingOneOf
  | notContainingOneOf
deriving DecidableEq, Inhabited

namespace Comparator

-- The full spelling.
def text : Comparator → String
  | equal => "Equal"
  | notEqual => "NotEqual"
  | greaterThan => "GreaterThan"
  | greaterThanOrEqual => "GreaterThanOrEqual"
  | lesserThan => "LesserThan"
  | lesserThanOrEqual => "LesserThanOrEqual"
  | matching => "Matching"
  | notMatching => "NotMatching"
  | containing => "Containing"
  | notContaining => "NotContaining"
  | containingOneOf => "ContainingOneOf"
  | notContainingOneOf => "NotContainingOneOf"

def all : List Comparator :=
  [equal, notEqual, greaterThan, greaterThanOrEqual, lesserThan, lesserThanOrEqual,
   matching, notMatching, containing, notContaining, containingOneOf, notContainingOneOf]

-- Equality can be left out of a name, so it has two spellings, as has its negation.
def spellings : List (List Char × Comparator) :=
  ([], equal) :: ("Not".toList, notEqual) :: all.map fun c => (c.text.toList, c)

def ofSpelling? (spelling : List Char) : Option Comparator :=
  spellings.lookup spelling

-- Singular comparators take exactly one value.
def isSingular : Comparator → Bool
  | greaterThan | greaterThanOrEqual | lesserThan | lesserThanOrEqual | matching | notMatching =>
    true
  | _ => false

-- Reversed comparators look for their values in the field, and not for the field in their values.
def isReversed : Comparator → Bool
  | containing | notContaining | containingOneOf | notContainingOneOf => true
  | _ => false

end Comparator

end RecordStore
