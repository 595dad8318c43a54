import RecordStore.Pattern.ByteRange
import RecordStore.Pattern.Expression
import Std.Data.HashMap

-- The room that an expression takes as an automaton over bytes.
--
-- Expressions whose automata take too much room are refused, although they have a meaning. Two
-- automata count, one that reads texts forwards and one that reads them backwards.

namespace RecordStore

-- The room that has been taken, and the states that can be shared, each with what it is known by.
structure Footprint where
  states : Nat
  extra : Nat
  shared : Std.HashMap Nat (List Nat × Nat)

namespace Footprint

def none : Footprint := ⟨0, 0, ∅⟩

def stateSize : Nat := 32

-- What is added for every byte range of a state with several of them, and for every branch.
def rangeSize : Nat := 8

def branchSize : Nat := 4

def limit : Nat := 10 * 1024 * 1024

def size (f : Footprint) : Nat := f.states * stateSize + f.extra

end Footprint

-- Takes room for an automaton, up to the limit.
abbrev Layout := StateT Footprint Option

namespace Layout

def take (states extra : Nat) : Layout Unit := fun f =>
  let f := { f with states := f.states + states, extra := f.extra + extra }
  if f.size ≤ Footprint.limit then some ((), f) else none

-- Adds a state, and returns its number.
def state (extra : Nat) : Layout Nat := do
  let number := (← get).states
  take 1 extra
  return number

def branches (count : Nat) : Layout Unit := take 0 (count * Footprint.branchSize)

-- A state that branches needs room for every state that follows it.
def follow (branching : Bool) : Layout Unit := if branching then branches 1 else pure ()

-- Shared states.

def slot (capacity : Nat) (key : List Nat) : Nat :=
  let hash :=
    key.foldl (fun (h : UInt64) n => (h ^^^ n.toUInt64) * 1099511628211) 14695981039346656037
  hash.toNat % capacity

-- A state is shared with one of the same key. Of two keys with one slot only the later one is kept.
def share (capacity : Nat) (key : List Nat) (extra : Nat) : Layout Nat := do
  let slot := slot capacity key
  match (← get).shared.get? slot with
  | some (held, number) => if held = key then return number else add slot
  | none => add slot
where
  add (slot : Nat) : Layout Nat := do
    let number ← state extra
    modify fun f => { f with shared := f.shared.insert slot (key, number) }
    return number

def forget : Layout Unit := modify fun f => { f with shared := ∅ }

-- Sets of characters, read forwards.

-- A state that is not finished: its byte ranges with the states they lead to, latest first, and the
-- range that has no such state yet.
structure OpenState where
  ranges : List (ByteRange × Nat)
  last : Option ByteRange

def OpenState.lead (s : OpenState) (target : Nat) : OpenState :=
  match s.last with
  | some r => ⟨(r, target) :: s.ranges, none⟩
  | none => s

def forwardCapacity : Nat := 10000

def OpenState.finish (s : OpenState) : Layout Nat :=
  let key := s.ranges.reverse.flatMap fun (r, target) => [r.first.toNat, r.last.toNat, target]
  share forwardCapacity key (s.ranges.length * Footprint.rangeSize)

-- Finishes states of which each leads to the next one, and the last one to the target.
def finishAll (target : Nat) : List OpenState → Layout Nat
  | [] => pure target
  | s :: states => do (s.lead (← finishAll target states)).finish

-- Adds a sequence that comes after all that have been added. States up to the
-- first difference stay open.
def addSequence (target : Nat) : List ByteRange → List OpenState → Layout (List OpenState)
  | r :: rs, s :: states =>
    if s.last = some r then do return s :: (← addSequence target rs states)
    else do
      let s := s.lead (← finishAll target states)
      return { s with last := some r } :: rs.map fun r => ⟨[], some r⟩
  | rs, _ => return rs.map fun r => ⟨[], some r⟩

def forwardSet (sequences : List (List ByteRange)) : Layout Unit := do
  forget
  let target ← state 0
  let states ← sequences.foldlM (fun states s => addSequence target s states) [⟨[], none⟩]
  let _ ← finishAll target states

-- Sets of characters, read backwards.

def backwardCapacity : Nat := 1000

-- Every sequence is a branch, of which the last bytes are read first.
def backwardSet (sequences : List (List ByteRange)) : Layout Unit := do
  forget
  let _ ← state 0
  let target ← state 0
  sequences.forM fun s => do
    let _ ← s.foldlM
      (fun target r => share backwardCapacity [target, r.first.toNat, r.last.toNat] 0) target
    branches 1

def asciiSet (s : CharSet) : Layout Unit :=
  take 2 (s.ranges.length * Footprint.rangeSize)

def set (backward : Bool) (s : CharSet) : Layout Unit :=
  let sequences := s.ranges.flatMap ByteRange.sequences
  if s.isAscii then asciiSet s
  else if backward then backwardSet sequences
  else forwardSet sequences

-- Alternatives that are all literals share what they begin with.

def literalBytes (chars : List Char) : List UInt8 := chars.flatMap String.utf8EncodeChar

-- The words between those that are empty.
def wordGroups : List (List UInt8) → List (List (List UInt8))
  | [] => [[]]
  | [] :: words => [] :: wordGroups words
  | w :: words =>
    match wordGroups words with
    | g :: gs => (w :: g) :: gs
    | [] => [[w]]

-- Of empty words in front only one counts.
def distinctGroups (words : List (List UInt8)) : List (List (List UInt8)) :=
  match words with
  | [] :: words => wordGroups ([] :: words.dropWhile List.isEmpty)
  | words => wordGroups words

def firstBytes (words : List (List UInt8)) : List UInt8 := (words.filterMap List.head?).eraseDups

def restsAfter (byte : UInt8) (words : List (List UInt8)) : List (List UInt8) :=
  words.filterMap fun w => match w with
    | b :: rest => if b = byte then some rest else none
    | [] => none

-- Words are no longer than the first number says.
def wordTree : Nat → List (List UInt8) → Layout Unit
  | 0, _ => pure ()
  | fuel + 1, words => do
    if words.all List.isEmpty then return
    let groups := distinctGroups words
    groups.forM fun group => do
      let bytes := firstBytes group
      bytes.forM fun byte => wordTree fuel (restsAfter byte group)
      match bytes with
      | [] => pure ()
      | [_] => take 1 0
      | _ => take 1 (bytes.length * Footprint.rangeSize)
    take 1 0
    branches ((groups.filter fun g => !g.isEmpty).length + (groups.length - 1))

def words (words : List (List UInt8)) : Layout Unit := do
  take 1 0
  wordTree ((words.map List.length).foldl max 0 + 1) words

def literal? : Expression → Option (List Char)
  | .literal chars => some chars
  | _ => none

-- Expressions. Whatever has been laid out tells whether it ends with a state that branches.

def copiesAfter (copy : Layout Bool) : Nat → Bool → Layout Bool
  | 0, branching => pure branching
  | n + 1, branching => do
    let next ← copy
    follow branching
    copiesAfter copy n next

def copies (copy : Layout Bool) : Nat → Layout Bool
  | 0 => do
    take 1 0
    return false
  | n + 1 => do copiesAfter copy n (← copy)

-- Copies of which each can be left out together with all that follow.
def options (copy : Layout Bool) : Nat → Bool → Layout Bool
  | 0, branching => pure branching
  | n + 1, branching => do
    take 1 0
    let next ← copy
    follow branching
    branches 2
    options copy n next

-- A loop around a copy that is never empty, or around one that may be empty.
def loop (copy : Layout Bool) (neverEmpty : Bool) : Layout Bool := do
  if neverEmpty then
    take 1 0
    follow (← copy)
    branches 1
    return true
  else
    follow (← copy)
    take 3 0
    branches 4
    return false

def repetition (copy : Layout Bool) (neverEmpty : Bool) (least : Nat) : Option Nat → Layout Bool
  | none =>
    if least = 0 then loop copy neverEmpty
    else do
      follow (← copies copy least)
      take 1 0
      branches 1
      return true
  | some most =>
    if least = 0 ∧ most = 1 then do
      take 1 0
      follow (← copy)
      take 1 0
      branches 2
      return false
    else do
      let last ← copies copy least
      if least = most then return last
      take 1 0
      follow (← options copy (most - least) last)
      return false

mutual

def expression (backward : Bool) : Expression → Layout Bool
  | .empty => do
    take 1 0
    return false
  | .literal chars => do
    take (literalBytes chars).length 0
    return false
  | .set s => do
    set backward s
    return false
  | .place _ => do
    take 1 0
    return false
  | .repeated e least most _ =>
    repetition (expression backward e) (e.minLength.any (0 < ·)) least most
  | .group _ e =>
    if backward then expression backward e
    else do
      take 1 0
      follow (← expression backward e)
      take 1 0
      return false
  | .sequence es => if backward then backwards es else forwards es false
  | .alternatives es =>
    match es.mapM literal? with
    | some literals => do
      words (literals.map fun chars =>
        if backward then (literalBytes chars).reverse else literalBytes chars)
      return false
    | none => do
      alternatives backward 0 es
      return false

def forwards : List Expression → Bool → Layout Bool
  | [], branching => pure branching
  | e :: es, branching => do
    let next ← expression false e
    follow branching
    forwards es next

def backwards : List Expression → Layout Bool
  | [] => pure false
  | e :: es => do
    let branching ← backwards es
    let next ← expression true e
    follow branching
    return next

-- The states around alternatives come after the second one.
def alternatives (backward : Bool) (position : Nat) : List Expression → Layout Unit
  | [] => pure ()
  | e :: es => do
    follow (← expression backward e)
    branches 1
    if position = 1 then take 2 0
    alternatives backward (position + 1) es

end

-- What stands around an expression: a loop over all bytes that precede a match, unless there can be
-- none, and the states where a match starts and ends.
def pattern (backward : Bool) (e : Expression) : Layout Unit := do
  let anchored := if backward then e.endsText else e.startsText
  if anchored then take 1 0
  else
    take 3 Footprint.rangeSize
    branches 2
  if backward then
    follow (← expression backward e)
    take 1 0
  else
    take 1 0
    follow (← expression backward e)
    take 2 0

end Layout

-- Whether the automata of an expression are small enough.
def Expression.fits (e : Expression) : Bool :=
  (Layout.pattern false e .none).isSome && (Layout.pattern true e .none).isSome

end RecordStore
