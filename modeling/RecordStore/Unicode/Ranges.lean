namespace RecordStore.Unicode

def hexDigitValue (c : Char) : Nat :=
  if c.isDigit then c.toNat - '0'.toNat else c.toNat - 'a'.toNat + 10

def hexValue (digits : List Char) : Nat :=
  digits.foldl (fun n c => n * 16 + hexDigitValue c) 0

structure Range where
  first : Nat
  last : Nat
deriving DecidableEq

namespace Range

def contains (r : Range) (n : Nat) : Bool := r.first ≤ n && n ≤ r.last

-- A single code point stands for the range that holds only it.
def ofText (cs : List Char) : Range :=
  let first := cs.takeWhile (· != '-')
  let last := cs.drop (first.length + 1)
  { first := hexValue first
    last := if last.isEmpty then hexValue first else hexValue last }

end Range

-- The parts of a text between the given separators.
def parts (separator : Char) : List Char → List (List Char)
  | [] => [[]]
  | c :: cs =>
    if c == separator then [] :: parts separator cs
    else match parts separator cs with
      | [] => [[c]]
      | p :: ps => (c :: p) :: ps

abbrev Ranges := List Range

-- The entries of a line are set apart by blanks.
def entries (lines : List String) : List (List Char) :=
  lines.flatMap fun line => parts ' ' line.toList

def Ranges.ofLines (lines : List String) : Ranges :=
  (entries lines).map Range.ofText

def Ranges.contains (rs : Ranges) (c : Char) : Bool :=
  rs.any (·.contains c.toNat)

end RecordStore.Unicode
