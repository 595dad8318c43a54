import RecordStore.Unicode.Case
import RecordStore.Unicode.Edition

-- Sets of characters, as patterns describe them.
--
-- A set is the list of its ranges, in ascending order and without any two that touch.

namespace RecordStore

open Unicode (Range)

structure CharSet where
  ranges : List Range
deriving DecidableEq

namespace CharSet

-- Joins a range with those behind it that it reaches.
def joinWith (r : Range) : List Range → List Range
  | [] => [r]
  | s :: rs =>
    if s.first ≤ r.last + 1 then joinWith ⟨r.first, max r.last s.last⟩ rs
    else r :: joinWith s rs

def join : List Range → List Range
  | [] => []
  | r :: rs => joinWith r rs

def ofRanges (rs : List Range) : CharSet where
  ranges := join (rs.mergeSort fun r s => r.first ≤ s.first)

def none : CharSet := ⟨[]⟩

def single (c : Char) : CharSet := ⟨[⟨c.toNat, c.toNat⟩]⟩

def range (first last : Char) : CharSet := ofRanges [⟨first.toNat, last.toNat⟩]

def ofChars (ranges : List (Char × Char)) : CharSet :=
  ofRanges (ranges.map fun r => ⟨r.1.toNat, r.2.toNat⟩)

def isEmpty (s : CharSet) : Bool := s.ranges.isEmpty

-- The character of a set that has only one.
def only? (s : CharSet) : Option Char :=
  match s.ranges with
  | [r] => if r.first = r.last then some (.ofNat r.first) else Option.none
  | _ => Option.none

def isAscii (s : CharSet) : Bool := s.ranges.all (·.last < 0x80)

-- Ranges are in ascending order, so that only the first one that does not end before
-- `n` can hold it.
def holds (s : CharSet) (n : Nat) : Bool :=
  (s.ranges.find? (n ≤ ·.last)).any (·.first ≤ n)

def contains (s : CharSet) (c : Char) : Bool := s.holds c.toNat

def union (s t : CharSet) : CharSet := ofRanges (s.ranges ++ t.ranges)

-- What is left between ranges in ascending order, from a given code point on.
def gaps (start : Nat) : List Range → List Range
  | [] => if start ≤ 0x10ffff then [⟨start, 0x10ffff⟩] else []
  | r :: rs =>
    if start < r.first then ⟨start, r.first - 1⟩ :: gaps (r.last + 1) rs else gaps (r.last + 1) rs

def surrogates : CharSet := ⟨[⟨0xd800, 0xdfff⟩]⟩

-- Surrogates are no characters.
def complement (s : CharSet) : CharSet := ⟨gaps 0 (s.union surrogates).ranges⟩

def all : CharSet := complement none

def inter (s t : CharSet) : CharSet := (s.complement.union t.complement).complement

def difference (s t : CharSet) : CharSet := s.inter t.complement

def symmetricDifference (s t : CharSet) : CharSet := (s.difference t).union (t.difference s)

-- Adds to a set all that is paired with the same as one of its characters. What is paired with
-- itself does not count as a pair.
def close (pairs : List (Nat × Nat)) (s : CharSet) : CharSet :=
  let reached := pairs.filter fun p => s.holds p.1 || s.holds p.2
  let targets := ofRanges (reached.map fun p => ⟨p.2, p.2⟩)
  let added := pairs.filter fun p => targets.holds p.2
  s.union (ofRanges (added.flatMap fun p => [⟨p.1, p.1⟩, ⟨p.2, p.2⟩]))

def addedLater : CharSet := ofRanges Unicode.addedLater

def knownFoldPairs : List (Nat × Nat) :=
  Unicode.foldPairs.filter fun p => !(addedLater.holds p.1 || addedLater.holds p.2)

def asciiFoldPairs : List (Nat × Nat) :=
  Unicode.foldPairs.filter fun p => p.1 < 0x80 && p.2 < 0x80

-- Every character with a case variant in the set.
def anyCase (s : CharSet) : CharSet := s.close knownFoldPairs

-- The same, with variants among the letters of ASCII only.
def anyAsciiCase (s : CharSet) : CharSet := s.close asciiFoldPairs

end CharSet

end RecordStore
