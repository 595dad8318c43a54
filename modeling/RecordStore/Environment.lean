import RecordStore.Plan

-- What stores take from outside.

namespace RecordStore

structure Environment where
  -- The keys that are generated one after the other.
  key : Nat → String
  -- Whether a pattern occurs in a text. A pattern whose source is not valid stands for nothing.
  pattern : PatternSource → Option (String → Bool)

end RecordStore
