import RecordStore.Double.Decimal
import RecordStore.Value

-- Reading values from JSON text.
--
-- A reader takes the characters from the front of a list and returns what is left of it. The last
-- member of a name wins.

namespace RecordStore.Value

def skipSpace (cs : List Char) : List Char :=
  cs.dropWhile fun c => c == ' ' || c == '\n' || c == '\t' || c == '\r'

def literal? (word : List Char) (v : Value) (cs : List Char) : Option (Value × List Char) :=
  if word.isPrefixOf cs then some (v, cs.drop word.length) else none

def decimalDigit (c : Char) : Nat := c.toNat - '0'.toNat

def natOf (digits : List Char) : Nat :=
  digits.foldl (fun n c => n * 10 + decimalDigit c) 0

-- A number is an integer only if it is written as one and fits 64 bits. The integer
-- zero has no sign.
def numberOf? (negative : Bool) (whole fraction : List Char) (exponent : Option Int) :
    Option Number :=
  let n := natOf (whole ++ fraction)
  let isInteger := fraction.isEmpty && exponent.isNone && !(negative && n == 0)
  match if isInteger then Number.ofInt? (if negative then -n else n) else none with
  | some integer => some integer
  | none => (Double.ofDecimal? negative n (exponent.getD 0 - fraction.length)).map .double

def exponent? : List Char → Option (Option Int × List Char)
  | e :: cs =>
    if e == 'e' || e == 'E' then
      let (negative, cs) := match cs with
        | '-' :: cs => (true, cs)
        | '+' :: cs => (false, cs)
        | cs => (false, cs)
      let (digits, cs) := cs.span Char.isDigit
      let n : Int := natOf digits
      if digits.isEmpty then none else some (some (if negative then -n else n), cs)
    else some (none, e :: cs)
  | [] => some (none, [])

def fraction? : List Char → Option (List Char × List Char)
  | '.' :: cs =>
    let (digits, cs) := cs.span Char.isDigit
    if digits.isEmpty then none else some (digits, cs)
  | cs => some ([], cs)

def number? (cs : List Char) : Option (Value × List Char) := do
  let (negative, cs) := match cs with
    | '-' :: cs => (true, cs)
    | cs => (false, cs)
  let (whole, cs) := cs.span Char.isDigit
  if whole.isEmpty || (whole.head? == some '0' && 1 < whole.length) then none
  let (fraction, cs) ← fraction? cs
  let (exponent, cs) ← exponent? cs
  return (.number (← numberOf? negative whole fraction exponent), cs)

def hexValue? (c : Char) : Option Nat :=
  if c.isDigit then some (c.toNat - '0'.toNat)
  else if 'a' ≤ c ∧ c ≤ 'f' then some (c.toNat - 'a'.toNat + 10)
  else if 'A' ≤ c ∧ c ≤ 'F' then some (c.toNat - 'A'.toNat + 10)
  else none

def fourHex? : List Char → Option (Nat × List Char)
  | a :: b :: c :: d :: cs => do
    let n := ((← hexValue? a) * 16 + (← hexValue? b)) * 16 + (← hexValue? c)
    return (n * 16 + (← hexValue? d), cs)
  | _ => none

-- A character outside the first plane is written as two units.
def unicodeEscape? (cs : List Char) : Option (Char × List Char) := do
  let (unit, cs) ← fourHex? cs
  if unit < 0xd800 ∨ 0xdfff < unit then return (.ofNat unit, cs)
  else if 0xdbff < unit then none
  else match cs with
    | '\\' :: 'u' :: cs => do
      let (low, cs) ← fourHex? cs
      if low < 0xdc00 ∨ 0xdfff < low then none
      else return (.ofNat (0x10000 + (unit - 0xd800) * 0x400 + (low - 0xdc00)), cs)
    | _ => none

def escaped? : List Char → Option (Char × List Char)
  | '"' :: cs => some ('"', cs)
  | '\\' :: cs => some ('\\', cs)
  | '/' :: cs => some ('/', cs)
  | 'b' :: cs => some ('\x08', cs)
  | 'f' :: cs => some ('\x0c', cs)
  | 'n' :: cs => some ('\n', cs)
  | 'r' :: cs => some ('\r', cs)
  | 't' :: cs => some ('\t', cs)
  | 'u' :: cs => unicodeEscape? cs
  | _ => none

-- Reads up to the closing quote. Every step takes at least one character.
def chars? (read : List Char) : Nat → List Char → Option (List Char × List Char)
  | 0, _ => none
  | _, [] => none
  | fuel + 1, c :: cs =>
    if c == '"' then some (read.reverse, cs)
    else if c == '\\' then do
      let (c, cs) ← escaped? cs
      chars? (c :: read) fuel cs
    else if c.val < 0x20 then none
    else chars? (c :: read) fuel cs

def stringLiteral? (fuel : Nat) : List Char → Option (String × List Char)
  | '"' :: cs => (chars? [] fuel cs).map fun (read, cs) => (.ofList read, cs)
  | _ => none

mutual

-- Every step takes at least one character, so the length of the text bounds their number.
def value? : Nat → List Char → Option (Value × List Char)
  | 0, _ => none
  | fuel + 1, cs =>
    match cs with
    | '[' :: cs =>
      match skipSpace cs with
      | ']' :: cs => some (.array [], cs)
      | cs => (items? fuel cs).map fun (items, cs) => (.array items, cs)
    | '\x7b' :: cs =>
      match skipSpace cs with
      | '\x7d' :: cs => some (.object ∅, cs)
      | cs => (members? fuel cs).map fun (members, cs) => (.ofList members, cs)
    | '"' :: _ => (stringLiteral? (fuel + 1) cs).map fun (s, cs) => (.string s, cs)
    | 'n' :: _ => literal? ['n', 'u', 'l', 'l'] .null cs
    | 't' :: _ => literal? ['t', 'r', 'u', 'e'] (.bool true) cs
    | 'f' :: _ => literal? ['f', 'a', 'l', 's', 'e'] (.bool false) cs
    | cs => number? cs

def items? : Nat → List Char → Option (List Value × List Char)
  | 0, _ => none
  | fuel + 1, cs => do
    let (v, cs) ← value? fuel (skipSpace cs)
    match skipSpace cs with
    | ',' :: cs => (items? fuel cs).map fun (vs, cs) => (v :: vs, cs)
    | ']' :: cs => return ([v], cs)
    | _ => none

def members? : Nat → List Char → Option (List (String × Value) × List Char)
  | 0, _ => none
  | fuel + 1, cs => do
    let (name, cs) ← stringLiteral? (fuel + 1) (skipSpace cs)
    match skipSpace cs with
    | ':' :: cs => do
      let (v, cs) ← value? fuel (skipSpace cs)
      match skipSpace cs with
      | ',' :: cs => (members? fuel cs).map fun (ms, cs) => ((name, v) :: ms, cs)
      | '\x7d' :: cs => return ([(name, v)], cs)
      | _ => none
    | _ => none

end

-- The value that a whole text stands for.
def read? (s : String) : Option Value :=
  let cs := skipSpace s.toList
  match value? (cs.length + 1) cs with
  | some (v, cs) => if (skipSpace cs).isEmpty then some v else none
  | none => none

end RecordStore.Value
