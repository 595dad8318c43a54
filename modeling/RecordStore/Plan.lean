import RecordStore.Name

namespace RecordStore

inductive Connective where
  | and
  | or
deriving DecidableEq

namespace Connective

def text : Connective → String
  | and => "and"
  | or => "or"

def keyword : Connective → String
  | and => "AND"
  | or => "OR"

end Connective

-- A regular expression by its source.
structure PatternSource where
  source : String
  ignoreCase : Bool
deriving DecidableEq

-- What can be given to a filter.
inductive Given where
  | value (v : Value)
  | pattern (p : PatternSource)

-- As a value, a pattern is its source.
def Given.toValue : Given → Value
  | value v => v
  | pattern p => .string p.source

inductive Operator where
  | eq
  | ne
  | gt
  | gte
  | lt
  | lte
  | isIn
  | notIn
  | like
  | notLike
  | allIn
  | noneIn
  | anyIn
  | anyNotIn
deriving DecidableEq

namespace Operator

def text : Operator → String
  | eq => "=="
  | ne => "!="
  | gt => ">"
  | gte => ">="
  | lt => "<"
  | lte => "<="
  | isIn => "IN"
  | notIn => "NOT IN"
  | like => "=~"
  | notLike => "!~"
  | allIn => "ALL IN"
  | noneIn => "NONE IN"
  | anyIn => "ANY IN"
  | anyNotIn => "ANY NOT IN"

-- Some comparators mean another operator if they are given other than one value.
def ofComparator (multiple : Bool) : Comparator → Operator
  | .equal => if multiple then isIn else eq
  | .notEqual => if multiple then notIn else ne
  | .greaterThan => gt
  | .greaterThanOrEqual => gte
  | .lesserThan => lt
  | .lesserThanOrEqual => lte
  | .matching => like
  | .notMatching => notLike
  | .containing => if multiple then allIn else isIn
  | .notContaining => if multiple then noneIn else notIn
  | .containingOneOf => anyIn
  | .notContainingOneOf => anyNotIn

def takesList : Operator → Bool
  | anyIn | anyNotIn => true
  | _ => false

def takesPattern : Operator → Bool
  | like | notLike => true
  | _ => false

end Operator

inductive Operand where
  | value (v : Value)
  | pattern (p : PatternSource)

namespace Operand

-- The value that stands for the operand among the bound ones.
def toValue : Operand → Value
  | value v => v
  | pattern p => .string p.source

-- A single value stands for itself, all else for a list. Only where an operator takes
-- patterns is one kept.
def ofGiven (operator : Operator) (givens : List Given) : Operand :=
  match givens with
  | [g] =>
    if operator.takesList then value (.array [g.toValue])
    else match g with
      | .pattern p => if operator.takesPattern then pattern p else value g.toValue
      | .value v => value v
  | _ => value (.array (givens.map Given.toValue))

end Operand

structure Filter where
  field : String
  comparator : Comparator
  operator : Operator
  operand : Operand
  bind : String

namespace Filter

-- Names never collide, since the digits after the last underscore are the position of the filter.
def bindName (field : String) (position : Nat) : String :=
  .ofList (field.toList.dropWhile (· == '_')) ++ "_" ++ toString position

def new (predicate : Predicate) (givens : List Given) (position : Nat) : Except Error Filter :=
  let multiple := givens.length != 1
  if predicate.comparator.isSingular && multiple then .error (.valueCount predicate.comparator)
  else
    let operator := Operator.ofComparator multiple predicate.comparator
    .ok {
      field := predicate.field
      comparator := predicate.comparator
      operator := operator
      operand := .ofGiven operator givens
      bind := bindName predicate.field position
    }

end Filter

-- The results from `offset` on, at most `count` of them.
structure Window where
  offset : Nat
  count : Nat
deriving DecidableEq

-- The results from `start` on up to `stop`, which itself is excluded.
def Window.ofSlice (start stop : Int) : Except Error Window :=
  if start < 0 then .error (.negativeStart start)
  else if stop ≤ start then .error (.emptySlice start stop)
  else .ok ⟨start.toNat, (stop - start).toNat⟩

structure Plan where
  filters : List Filter
  connective? : Option Connective
  sorts : List SortKey
  window : Option Window

namespace Plan

def find (name : String) (givens : List Given) : Except Error Plan := do
  let filter ← Filter.new (← Name.finder name) givens 0
  return { filters := [filter], connective? := none, sorts := [], window := none }

-- A plan without a connective has only one filter, for which it makes no difference.
def connective (plan : Plan) : Connective := plan.connective?.getD .and

def connect (plan : Plan) (connective : Connective) : Except Error Plan :=
  match plan.connective? with
  | some current =>
    if current = connective then .ok plan else .error .mixedConnective
  | none => .ok { plan with connective? := some connective }

def pushFilter (plan : Plan) (name : String) (givens : List Given) : Except Error Plan := do
  let filter ← Filter.new (← Name.continuation name) givens plan.filters.length
  return { plan with filters := plan.filters ++ [filter] }

def filter (plan : Plan) (connective : Connective) (name : String) (givens : List Given) :
    Except Error Plan := do
  (← plan.connect connective).pushFilter name givens

def sortBy (plan : Plan) (name : String) : Except Error Plan := do
  return { plan with sorts := plan.sorts ++ [← Name.sorter name] }

def slice (plan : Plan) (start stop : Int) : Except Error Plan := do
  return { plan with window := some (← Window.ofSlice start stop) }

end Plan

end RecordStore
