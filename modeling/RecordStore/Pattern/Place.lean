import RecordStore.Pattern.CharClass

-- Places between the characters of a text, where a pattern can ask for what is on either side.

namespace RecordStore

-- Which changes between characters of words and others make a place.
inductive Boundary where
  | edge
  | noEdge
  | start
  | stop
  | startHalf
  | stopHalf
deriving DecidableEq

inductive Place where
  | textStart
  | textEnd
  | lineStart
  | lineEnd
  -- The same, where a carriage return ends lines, too.
  | lineStartAnyBreak
  | lineEndAnyBreak
  | boundary (kind : Boundary) (letters : CharSet)
deriving DecidableEq

namespace Boundary

def holds (before after : Bool) : Boundary → Bool
  | edge => before != after
  | noEdge => before == after
  | start => !before && after
  | stop => before && !after
  | startHalf => !before
  | stopHalf => !after

end Boundary

-- Whether a place is between two given characters, either of which is missing at the
-- ends of a text.
def Place.holds (before after : Option Char) : Place → Bool
  | textStart => before.isNone
  | textEnd => after.isNone
  | lineStart => before.isNone || before == some '\n'
  | lineEnd => after.isNone || after == some '\n'
  | lineStartAnyBreak =>
    before.isNone || before == some '\n' || (before == some '\r' && after != some '\n')
  | lineEndAnyBreak =>
    after.isNone || after == some '\r' || (after == some '\n' && before != some '\r')
  | boundary kind letters => kind.holds (before.any letters.contains) (after.any letters.contains)

end RecordStore
