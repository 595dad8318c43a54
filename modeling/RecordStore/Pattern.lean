import RecordStore.Environment
import RecordStore.Pattern.Automaton
import RecordStore.Pattern.Footprint
import RecordStore.Pattern.Reader

-- Regular expressions that are searched for in texts, as an environment in which stores can run.

namespace RecordStore

structure Pattern where
  automaton : Automaton

namespace Pattern

-- There is no pattern for a source that is not valid, or whose expression takes too much room.
def read? (source : String) (ignoreCase : Bool) : Option Pattern := do
  let e ← expression? source ignoreCase
  if e.fits then some ⟨.ofExpression e⟩ else none

-- Whether the pattern occurs anywhere in the text.
def occursIn (p : Pattern) (text : String) : Bool :=
  p.automaton.occursIn text

end Pattern

-- The environment that programs run in: patterns are regular expressions.
def Environment.ofKeys (key : Nat → String) : Environment where
  key := key
  pattern p := (Pattern.read? p.source p.ignoreCase).map Pattern.occursIn

end RecordStore
