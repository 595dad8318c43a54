import RecordStore.Pattern.Expression

-- Automata that find matches of expressions in texts.
--
-- The states where an automaton can be are followed all at once from one character to the next, so
-- that a text is read once, however many ways there are to match it.

namespace RecordStore

inductive Automaton.State where
  | accept
  | char (set : CharSet) (next : Nat)
  | place (place : Place) (next : Nat)
  | branch (next other : Nat)

-- Where a search begins at any position of a text, and what follows every state.
structure Automaton where
  states : Array Automaton.State
  start : Nat

namespace Automaton

-- Builds the states of an expression in front of those that follow it. What has been built is the
-- number of the state where it starts.
abbrev Builder := StateM (Array State)

namespace Builder

def push (s : State) : Builder Nat := fun states => (states.size, states.push s)

def set (number : Nat) (s : State) : Builder Unit :=
  fun states => ((), states.setIfInBounds number s)

def chars (cs : List Char) (next : Nat) : Builder Nat :=
  cs.foldrM (fun c next => push (.char (.single c) next)) next

def copies (build : Nat → Builder Nat) : Nat → Nat → Builder Nat
  | 0, next => pure next
  | n + 1, next => do copies build n (← build next)

-- Copies of which each can be left out together with all that follow.
def options (build : Nat → Builder Nat) (next : Nat) : Nat → Nat → Builder Nat
  | 0, inner => pure inner
  | n + 1, inner => do options build next n (← push (.branch (← build inner) next))

-- A loop that is gone through once or more often. The branch behind it, which leads back, is there
-- first. Both where the loop starts and where it branches are returned.
def loop (build : Nat → Builder Nat) (next : Nat) : Builder (Nat × Nat) := do
  let branch ← push (.branch next next)
  let start ← build branch
  set branch (.branch start next)
  return (start, branch)

-- No more copies are built than have to be gone through, and at least one.
def repetition (build : Nat → Builder Nat) (least : Nat) (most : Option Nat) (next : Nat) :
    Builder Nat :=
  match most, least with
  | some most, _ => do copies build least (← options build next (most - least) next)
  | none, 0 => do return (← loop build next).2
  | none, n + 1 => do copies build n (← loop build next).1

mutual

def expression : Expression → Nat → Builder Nat
  | .empty, next => pure next
  | .literal cs, next => chars cs next
  | .set s, next => push (.char s next)
  | .place p, next => push (.place p next)
  | .repeated e least most _, next => repetition (expression e) least most next
  | .group _ e, next => expression e next
  | .sequence es, next => sequence es next
  | .alternatives es, next => alternatives es next

def sequence : List Expression → Nat → Builder Nat
  | [], next => pure next
  | e :: es, next => do expression e (← sequence es next)

def alternatives : List Expression → Nat → Builder Nat
  | [], _ => push (.char .none 0)
  | [e], next => expression e next
  | e :: es, next => do push (.branch (← expression e next) (← alternatives es next))

end

end Builder

def ofExpression (e : Expression) : Automaton :=
  let (start, states) := Builder.expression e 0 #[.accept]
  ⟨states, start⟩

-- Where an automaton is between two characters: the states that wait for the next one, and
-- whether a match has ended. For every state there is the place where it was last
-- followed, counted from one.
structure Front where
  waiting : List (CharSet × Nat)
  accepted : Bool
  followed : Array Nat

namespace Front

def start (a : Automaton) : Front := ⟨[], false, .replicate a.states.size 0⟩

def mark (front : Front) (number place : Nat) : Front :=
  { front with followed := front.followed.setIfInBounds number place }

def wait (front : Front) (set : CharSet) (next : Nat) : Front :=
  { front with waiting := (set, next) :: front.waiting }

-- The states that a character leads to.
def next (front : Front) (c : Char) : List Nat :=
  front.waiting.filterMap fun (set, next) => if set.contains c then some next else none

end Front

-- A place in a text, and the characters on either side of it.
structure Spot where
  place : Nat
  before : Option Char
  after : Option Char

-- Follows states as far as is possible without a character. No state is followed twice, so that no
-- more of them come up than there are, each with at most two that follow it.
def follow (a : Automaton) (spot : Spot) : Nat → List Nat → Front → Front
  | 0, _, front => front
  | _, [], front => front
  | fuel + 1, number :: rest, front =>
    if front.followed[number]? == some spot.place then a.follow spot fuel rest front
    else
      let front := front.mark number spot.place
      match a.states[number]? with
      | some .accept => { front with accepted := true }
      | some (.char set next) => a.follow spot fuel rest (front.wait set next)
      | some (.place place next) =>
        if place.holds spot.before spot.after then a.follow spot fuel (next :: rest) front
        else a.follow spot fuel rest front
      | some (.branch next other) => a.follow spot fuel (next :: other :: rest) front
      | none => a.follow spot fuel rest front

-- Reads a text from a given spot on. A match can begin everywhere.
def search (a : Automaton) (place : Nat) (before : Option Char) (numbers : List Nat)
    (front : Front) :
    List Char → Bool
  | [] => (step none).accepted
  | c :: cs =>
    let front := step (some c)
    front.accepted || a.search (place + 1) (some c) (front.next c) { front with waiting := [] } cs
where
  step (after : Option Char) : Front :=
    a.follow ⟨place, before, after⟩ (numbers.length + 2 * a.states.size + 2)
      (a.start :: numbers) front

def occursIn (a : Automaton) (text : String) : Bool :=
  a.search 1 none [] (.start a) text.toList

end Automaton

end RecordStore
