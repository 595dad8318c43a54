import RecordStore.Value

-- The order of values and their equality.
--
-- Values of different types are ordered by their types, numbers by what they denote as finite
-- numbers, arrays and objects lexicographically, the latter by their members in the order of names.

namespace RecordStore.Value

def rank : Value → Nat
  | .null => 0
  | .bool _ => 1
  | .number _ => 2
  | .string _ => 3
  | .array _ => 4
  | .object _ => 5

mutual

def compare : Value → Value → Ordering
  | .bool a, .bool b => Ord.compare a b
  | .number a, .number b => a.toDouble.compare b.toDouble
  | .string a, .string b => Ord.compare a b
  | .array as, .array bs => compareItems as bs
  | .object ⟨_, _, as⟩, .object ⟨_, _, bs⟩ => compareMembers as bs
  | a, b => Ord.compare a.rank b.rank

-- A list that is the beginning of another one comes first.
def compareItems : List Value → List Value → Ordering
  | [], [] => .eq
  | [], _ :: _ => .lt
  | _ :: _, [] => .gt
  | a :: as, b :: bs => (compare a b).then (compareItems as bs)

def compareMembers : {ms ns : List String} → Values Value ms → Values Value ns → Ordering
  | _, _, .nil, .nil => .eq
  | _, _, .nil, .cons _ _ => .lt
  | _, _, .cons _ _, .nil => .gt
  | m :: _, n :: _, .cons a as, .cons b bs =>
    (Ord.compare m n).then ((compare a b).then (compareMembers as bs))

end

def equals (a b : Value) : Bool := a.compare b == .eq

-- A value that is no array has no elements.
def elements : Value → List Value
  | .array items => items
  | _ => []

def isIn (v collection : Value) : Bool := collection.elements.any (·.equals v)

mutual

-- Whether an assignment would change nothing: the values are the same, with numbers told apart only
-- by what they denote. The members of objects are found by their names.
def same : Value → Value → Bool
  | .null, .null => true
  | .bool a, .bool b => a == b
  | .number a, .number b => a.toDouble.position == b.toDouble.position
  | .string a, .string b => a == b
  | .array as, .array bs => sameItems as bs
  | .object ⟨ms, _, as⟩, .object bs => ms.length == bs.size && sameMembers as bs
  | _, _ => false

def sameItems : List Value → List Value → Bool
  | [], [] => true
  | a :: as, b :: bs => same a b && sameItems as bs
  | _, _ => false

def sameMembers : {ms : List String} → Values Value ms → NameMap Value → Bool
  | _, .nil, _ => true
  | name :: _, .cons a as, bs =>
    (match bs.get? name with
    | some b => same a b
    | none => false) && sameMembers as bs

end

end RecordStore.Value
