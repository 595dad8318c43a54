import RecordStore.Pattern.CharSet

namespace RecordStore

structure ByteRange where
  first : UInt8
  last : UInt8
deriving DecidableEq

namespace ByteRange

-- The last characters that are written in one, two and three bytes.
def lengthBounds : List Nat := [0x7f, 0x7ff, 0xffff]

-- The numbers of characters that agree in all but their last one, two and three bytes.
def blockSizes : List Nat := [0x40, 0x1000, 0x40000]

-- The first character of the second part, where a range has to be divided at the end of a block.
def blockCut? (first last size : Nat) : Option Nat :=
  if first / size = last / size then none
  else if first % size ≠ 0 then some ((first / size + 1) * size)
  else if last % size ≠ size - 1 then some (last / size * size)
  else none

-- The first character of the second part, where a range has to be divided before it can be written
-- as a single sequence of byte ranges.
def cut? (first last : Nat) : Option Nat :=
  match lengthBounds.find? fun bound => first ≤ bound ∧ bound < last with
  | some bound => some (bound + 1)
  | none => if last ≤ 0x7f then none else blockSizes.findSome? (blockCut? first last)

def bytes (n : Nat) : List UInt8 := String.utf8EncodeChar (.ofNat n)

-- The sequences of byte ranges for the characters of a range, in ascending order. It is divided at
-- most once at the surrogates, at every length and on either side of every block.
def sequencesIn : Nat → Nat → Nat → List (List ByteRange)
  | 0, _, _ => []
  | fuel + 1, first, last =>
    if last < first then []
    else if first < 0xe000 ∧ 0xd7ff < last then
      sequencesIn fuel first 0xd7ff ++ sequencesIn fuel 0xe000 last
    else match cut? first last with
      | some cut => sequencesIn fuel first (cut - 1) ++ sequencesIn fuel cut last
      | none => [List.zipWith ByteRange.mk (bytes first) (bytes last)]

def sequences (r : Unicode.Range) : List (List ByteRange) := sequencesIn 16 r.first r.last

end ByteRange

end RecordStore
