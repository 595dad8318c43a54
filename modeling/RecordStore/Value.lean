import RecordStore.Double
import RecordStore.NameMap

-- Values: what a field of a document can hold.
--
-- Integers that fit 64 bits, signed or unsigned, are kept apart from all other numbers, so that
-- they are written as they were read.

namespace RecordStore

inductive Number where
  | int (value : Int) (range : -9223372036854775808 ≤ value ∧ value ≤ 18446744073709551615)
  | double (value : Double)
deriving DecidableEq

namespace Number

-- There is none if the integer does not fit.
def ofInt? (i : Int) : Option Number :=
  if range : -9223372036854775808 ≤ i ∧ i ≤ 18446744073709551615 then some (.int i range) else none

-- An integer that does not fit is the nearest finite number.
def ofInt (i : Int) : Number := (ofInt? i).getD (.double (.ofInt i))

def toDouble : Number → Double
  | int i _ => .ofInt i
  | double x => x

end Number

-- The names of an object are listed once each and in ascending order.
inductive Value where
  | null
  | bool (b : Bool)
  | number (n : Number)
  | string (s : String)
  | array (items : List Value)
  | object (fields : NameMap Value)

instance : Inhabited Value := ⟨.null⟩

-- The fields of a document.
abbrev Fields := NameMap Value

namespace Value

def ofInt (i : Int) : Value := .number (.ofInt i)

def ofNat (n : Nat) : Value := .ofInt n

def ofList (members : List (String × Value)) : Value := .object (.ofList members)

def ofStrings (strings : List String) : Value := .array (strings.map .string)

def ofOption : Option String → Value
  | some s => .string s
  | none => .null

def string? : Value → Option String
  | .string s => some s
  | _ => none

def int? : Value → Option Int
  | .number (.int i _) => some i
  | _ => none

def bool? : Value → Option Bool
  | .bool b => some b
  | _ => none

def array? : Value → Option (List Value)
  | .array items => some items
  | _ => none

def fields? : Value → Option Fields
  | .object fields => some fields
  | _ => none

def strings? (v : Value) : Option (List String) := do
  (← v.array?).mapM string?

def isTrue : Value → Bool
  | .bool b => b
  | _ => false

-- The name of a value's type, as error messages give it.
def typeName : Value → String
  | .null => "null"
  | .bool _ => "boolean"
  | .number _ => "number"
  | .string _ => "string"
  | .array _ => "array"
  | .object _ => "object"

end Value

end RecordStore
