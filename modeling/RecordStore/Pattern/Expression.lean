import RecordStore.Pattern.Place

-- Regular expressions in a normal form.
--
-- The functions that build them join what can be joined: characters in a row become one literal,
-- alternatives of single characters become a set, and what all alternatives begin with comes first.

namespace RecordStore

inductive Expression where
  | empty
  -- Characters in a row, at least one.
  | literal (chars : List Char)
  | set (set : CharSet)
  | place (place : Place)
  | repeated (e : Expression) (least : Nat) (most : Option Nat) (greedy : Bool)
  | group (index : Nat) (e : Expression)
  | sequence (es : List Expression)
  | alternatives (es : List Expression)

namespace Expression

-- The least length of a match in bytes. An expression that matches nothing has none.
mutual

def minLength : Expression → Option Nat
  | empty => some 0
  | literal chars => some (chars.map Char.utf8Size).sum
  | set s => s.ranges.head?.map fun r => (Char.ofNat r.first).utf8Size
  | place _ => some 0
  | repeated e least _ _ => e.minLength.map (· * least)
  | group _ e => e.minLength
  | sequence es => minLengthSum es
  | alternatives es => minLengthMin es

def minLengthSum : List Expression → Option Nat
  | [] => some 0
  | e :: es => do return (← e.minLength) + (← minLengthSum es)

def minLengthMin : List Expression → Option Nat
  | [] => none
  | [e] => e.minLength
  | e :: es => do return min (← e.minLength) (← minLengthMin es)

end

-- Whether all matches are empty.
mutual

def isBlank : Expression → Bool
  | empty => true
  | literal _ => false
  | set _ => false
  | place _ => true
  | repeated e _ _ _ => e.isBlank
  | group _ e => e.isBlank
  | sequence es => areBlank es
  | alternatives es => areBlank es

def areBlank : List Expression → Bool
  | [] => true
  | e :: es => e.isBlank && areBlank es

end

-- Whether a match can only begin where the text does.
mutual

def startsText : Expression → Bool
  | place p => p == .textStart
  | repeated e least _ _ => 0 < least && e.startsText
  | group _ e => e.startsText
  | sequence es => oneStartsText es
  | alternatives es => allStartText es
  | _ => false

-- Only what precedes the first expression with a longer match, and that one, are at the start.
def oneStartsText : List Expression → Bool
  | [] => false
  | e :: es => e.startsText || (e.isBlank && oneStartsText es)

def allStartText : List Expression → Bool
  | [] => true
  | e :: es => e.startsText && allStartText es

end

-- Whether a match can only end where the text does.
mutual

def endsText : Expression → Bool
  | place p => p == .textEnd
  | repeated e least _ _ => 0 < least && e.endsText
  | group _ e => e.endsText
  | sequence es => oneEndsText es
  | alternatives es => allEndText es
  | _ => false

def oneEndsText : List Expression → Bool
  | [] => false
  | e :: es => oneEndsText es || (areBlank es && e.endsText)

def allEndText : List Expression → Bool
  | [] => true
  | e :: es => e.endsText && allEndText es

end

-- The number of expressions that an expression is made of.
mutual

def nodes : Expression → Nat
  | repeated e _ _ _ => e.nodes + 1
  | group _ e => e.nodes + 1
  | sequence es => nodesSum es + 1
  | alternatives es => nodesSum es + 1
  | _ => 1

def nodesSum : List Expression → Nat
  | [] => 0
  | e :: es => e.nodes + nodesSum es

end

-- What matches nothing.
def nothing : Expression := set .none

def ofSet (s : CharSet) : Expression :=
  match s.only? with
  | some c => literal [c]
  | none => set s

-- To repeat what is always empty more than once makes no difference.
def «repeat» (e : Expression) (least : Nat) (most : Option Nat) (greedy : Bool) : Expression :=
  let (least, most) :=
    if e.isBlank then (min least 1, some (min (most.getD 1) 1)) else (least, most)
  if least = 0 ∧ most = some 0 then empty
  else if least = 1 ∧ most = some 1 then e
  else repeated e least most greedy

def sequenceParts : Expression → List Expression
  | empty => []
  | sequence es => es
  | e => [e]

def consLiteral : Expression → List Expression → List Expression
  | literal cs, literal ds :: es => literal (cs ++ ds) :: es
  | e, es => e :: es

def ofSequence (es : List Expression) : Expression :=
  match (es.flatMap sequenceParts).foldr consLiteral [] with
  | [] => empty
  | [e] => e
  | es => sequence es

def alternativeParts : Expression → List Expression
  | alternatives es => es
  | e => [e]

def char? : Expression → Option CharSet
  | literal [c] => some (.single c)
  | _ => none

def set? : Expression → Option CharSet
  | set s => some s
  | _ => none

-- Alternatives that are all characters, or all sets, are one set.
def joinedSet? (es : List Expression) : Option CharSet :=
  match es.mapM char? with
  | some sets => some (sets.foldl .union .none)
  | none => (es.mapM set?).map fun sets => sets.foldl .union .none

-- Whether two expressions are the same, with the same numbers on their groups.
mutual

def same : Expression → Expression → Bool
  | empty, empty => true
  | literal a, literal b => a == b
  | set a, set b => a == b
  | place a, place b => a == b
  | repeated a least most greedy, repeated b least' most' greedy' =>
    least == least' && most == most' && greedy == greedy' && a.same b
  | group i a, group j b => i == j && a.same b
  | sequence a, sequence b => areSame a b
  | alternatives a, alternatives b => areSame a b
  | _, _ => false

def areSame : List Expression → List Expression → Bool
  | [], [] => true
  | a :: as, b :: bs => a.same b && areSame as bs
  | _, _ => false

end

def commonStart : List Expression → List Expression → List Expression
  | d :: ds, e :: es => if d.same e then d :: commonStart ds es else []
  | _, _ => []

def sequence? : Expression → Option (List Expression)
  | sequence es => some es
  | _ => none

-- What all alternatives begin with, if it is anything, and what is left of each of them.
def splitStart? (es : List Expression) : Option (List Expression × List (List Expression)) := do
  let sequences ← es.mapM sequence?
  let first ← sequences.head?
  let start := sequences.foldl commonStart first
  if start.isEmpty then none
  else some (start, sequences.map (·.drop start.length))

-- What is left after a common start has fewer nodes, so that their number bounds the steps.
def ofAlternativesIn : Nat → List Expression → Expression
  | 0, es => alternatives es
  | fuel + 1, es =>
    let es := es.flatMap alternativeParts
    match es with
    | [] => nothing
    | [e] => e
    | es =>
      match joinedSet? es with
      | some s => ofSet s
      | none =>
        match splitStart? es with
        | some (start, rests) =>
          ofSequence (start ++ [ofAlternativesIn fuel (rests.map ofSequence)])
        | none => alternatives es

def ofAlternatives (es : List Expression) : Expression :=
  ofAlternativesIn (nodesSum es + 1) es

end Expression

end RecordStore
