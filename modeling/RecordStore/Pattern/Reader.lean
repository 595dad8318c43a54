import RecordStore.Pattern.Expression

-- Reading expressions from their sources.
--
-- A reader takes the characters from the front of a list and returns what is left of it, or nothing
-- if the source is not valid. Look-around, references to groups and escapes without a meaning are
-- not, nor are expressions that are nested too deeply.

namespace RecordStore.Pattern

-- What is switched on and off within a pattern.
structure Flags where
  ignoreCase : Bool
  multiLine : Bool
  dotAll : Bool
  anyBreak : Bool
  -- Sets are sets of ASCII characters.
  asciiOnly : Bool
  -- Blanks and comments do not count.
  verbose : Bool
  -- Repetitions are lazy, and those that are marked as lazy are not.
  swapGreed : Bool

def Flags.none : Flags := ⟨false, false, false, false, false, false, false⟩

def skipBlanks (inComment : Bool) : List Char → List Char
  | [] => []
  | c :: cs =>
    if inComment then skipBlanks (c != '\n') cs
    else if Unicode.isWhiteSpace c then skipBlanks false cs
    else if c == '#' then skipBlanks true cs
    else c :: cs

def Flags.skip (flags : Flags) (cs : List Char) : List Char :=
  if flags.verbose then skipBlanks false cs else cs

-- Sets.

def Flags.foldCase (flags : Flags) (set : CharSet) : CharSet :=
  if !flags.ignoreCase then set
  else if flags.asciiOnly then .anyAsciiCase set
  else .anyCase set

-- The complement of a set of ASCII characters would not be one.
def Flags.complement? (flags : Flags) (negated : Bool) (set : CharSet) : Option CharSet :=
  if !negated then some set
  else if flags.asciiOnly then Option.none
  else some set.complement

def Flags.dot? (flags : Flags) : Option CharSet :=
  if flags.asciiOnly then Option.none
  else if flags.dotAll then some .all
  else if flags.anyBreak then some (CharSet.ofChars [('\n', '\n'), ('\r', '\r')]).complement
  else some (CharSet.single '\n').complement

def Flags.wordSet (flags : Flags) : CharSet :=
  if flags.asciiOnly then .asciiWord else .word

-- The sets that are written as a single letter, in uppercase for their complements.
def Flags.letterSet? (flags : Flags) (letter : Char) : Option CharSet :=
  flags.complement? letter.isUpper <|
    match letter.toLower with
    | 'd' => if flags.asciiOnly then .asciiDigit else .digit
    | 's' => if flags.asciiOnly then .asciiSpace else .whiteSpace
    | _ => flags.wordSet

def Flags.char (flags : Flags) (c : Char) : Expression := .ofSet (flags.foldCase (.single c))

-- Escapes.

-- What can stand for itself: a character, a set or a place.
inductive Atom where
  | char (c : Char)
  | set (s : CharSet)
  | place (p : Place)

def hexDigit? (c : Char) : Option Nat :=
  if c.isDigit then some (c.toNat - '0'.toNat)
  else if 'a' ≤ c ∧ c ≤ 'f' then some (c.toNat - 'a'.toNat + 10)
  else if 'A' ≤ c ∧ c ≤ 'F' then some (c.toNat - 'A'.toNat + 10)
  else Option.none

def charOf? (n : Nat) : Option Char :=
  if n.isValidChar then some (.ofNat n) else Option.none

-- The given number of digits.
def fixedHex? (flags : Flags) (value : Nat) : Nat → List Char → Option (Nat × List Char)
  | 0, cs => some (value, cs)
  | n + 1, cs =>
    match flags.skip cs with
    | [] => Option.none
    | c :: cs => do fixedHex? flags (value * 16 + (← hexDigit? c)) n cs

-- The characters up to a closing brace.
def braced? (flags : Flags) (read : List Char) : Nat → List Char → Option (List Char × List Char)
  | 0, _ => Option.none
  | fuel + 1, cs =>
    match flags.skip cs with
    | [] => Option.none
    | '\x7d' :: cs => some (read.reverse, cs)
    | c :: cs => braced? flags (c :: read) fuel cs

def hexOf? (digits : List Char) : Option Nat :=
  if digits.isEmpty then Option.none
  else digits.foldlM (fun n c => (hexDigit? c).map (n * 16 + ·)) 0

-- A character by its number, either of a fixed length or in braces.
def hexEscape? (flags : Flags) (digits : Nat) (cs : List Char) : Option (Atom × List Char) :=
  match flags.skip cs with
  | '\x7b' :: cs => do
    let (text, cs) ← braced? flags [] (cs.length + 1) cs
    return (.char (← charOf? (← hexOf? text)), cs)
  | cs => do
    let (n, cs) ← fixedHex? flags 0 digits cs
    if flags.asciiOnly && digits == 2 && 0x7f < n then Option.none
    else return (.char (← charOf? n), cs)

-- A property by its name, or by its name and value with one of `!=`, `:` and `=` between them.
def property? (name : List Char) : Option (Bool × CharSet) :=
  let parts := fun (cs : List Char) => (cs.takeWhile (· != '='), (cs.dropWhile (· != '=')).drop 1)
  let unequal := parts name
  if unequal.1.getLast? == some '!' && name.contains '=' then
    (CharSet.ofPropertyValue? unequal.1.dropLast unequal.2).map (true, ·)
  else if name.contains ':' then
    let property := name.takeWhile (· != ':')
    (CharSet.ofPropertyValue? property (name.drop (property.length + 1))).map (false, ·)
  else if name.contains '=' then
    (CharSet.ofPropertyValue? unequal.1 unequal.2).map (false, ·)
  else (CharSet.ofPropertyName? name).map (false, ·)

def propertyEscape? (flags : Flags) (negated : Bool) (cs : List Char) :
    Option (Atom × List Char) := do
  if flags.asciiOnly then Option.none
  let (name, cs) ← match flags.skip cs with
    | [] => Option.none
    | '\x7b' :: cs => braced? flags [] (cs.length + 1) cs
    | '\\' :: _ => Option.none
    | c :: cs => some ([c], cs)
  let (unequal, set) ← property? name
  return (.set (← flags.complement? (negated != unequal) (flags.foldCase set)), cs)

def isBoundaryNameChar (c : Char) : Bool := c.isAlpha || c == '-'

def boundaryOfName? : String → Option Boundary
  | "start" => some .start
  | "end" => some .stop
  | "start-half" => some .startHalf
  | "end-half" => some .stopHalf
  | _ => Option.none

-- The letters of a name, between which blanks may stand.
def boundaryName (flags : Flags) (read : List Char) : Nat → List Char → List Char × List Char
  | 0, cs => (read.reverse, cs)
  | fuel + 1, cs =>
    match flags.skip cs with
    | c :: rest =>
      if isBoundaryNameChar c then boundaryName flags (c :: read) fuel rest
      else (read.reverse, c :: rest)
    | [] => (read.reverse, [])

-- A name in braces says which boundary is meant. Braces without a name are left for a repetition.
def boundaryEscape? (flags : Flags) (cs : List Char) : Option (Atom × List Char) :=
  match cs with
  | '\x7b' :: rest =>
    match boundaryName flags [] rest.length rest with
    | (_, []) => Option.none
    | ([], _) => some (.place (.boundary .edge flags.wordSet), cs)
    | (name, '\x7d' :: rest) => do
      return (.place (.boundary (← boundaryOfName? (.ofList name)) flags.wordSet), rest)
    | _ => Option.none
  | _ => some (.place (.boundary .edge flags.wordSet), cs)

-- What follows a backslash. Signs stand for themselves, letters and digits only if
-- they have a meaning.
def escape? (flags : Flags) : List Char → Option (Atom × List Char)
  | [] => Option.none
  | c :: cs =>
    match c with
    | 'x' => hexEscape? flags 2 cs
    | 'u' => hexEscape? flags 4 cs
    | 'U' => hexEscape? flags 8 cs
    | 'p' => propertyEscape? flags false cs
    | 'P' => propertyEscape? flags true cs
    | 'd' | 'D' | 's' | 'S' | 'w' | 'W' => (flags.letterSet? c).map fun s => (.set s, cs)
    | 'a' => some (.char '\x07', cs)
    | 'f' => some (.char '\x0c', cs)
    | 't' => some (.char '\t', cs)
    | 'n' => some (.char '\n', cs)
    | 'r' => some (.char '\r', cs)
    | 'v' => some (.char '\x0b', cs)
    | 'A' => some (.place .textStart, cs)
    | 'z' => some (.place .textEnd, cs)
    | 'b' => boundaryEscape? flags cs
    | 'B' => some (.place (.boundary .noEdge flags.wordSet), cs)
    | '<' => some (.place (.boundary .start flags.wordSet), cs)
    | '>' => some (.place (.boundary .stop flags.wordSet), cs)
    | _ => if Unicode.isAscii c && !c.isAlphanum then some (.char c, cs) else Option.none

-- Bracketed sets.

-- A set that has been read, and how deeply it is nested.
structure NestedSet where
  set : CharSet
  depth : Nat

-- The items of a set that have been read: their union, their number, and how
-- deeply they are nested.
structure SetDraft where
  set : CharSet
  items : Nat
  depth : Nat

namespace SetDraft

def none : SetDraft := ⟨.none, 0, 0⟩

def push (draft : SetDraft) (item : NestedSet) : SetDraft where
  set := draft.set.union item.set
  items := draft.items + 1
  depth := max draft.depth item.depth

-- Items that are not alone make one more level.
def toSet (draft : SetDraft) : NestedSet where
  set := draft.set
  depth := if 1 < draft.items then draft.depth + 1 else draft.depth

end SetDraft

inductive SetOperator where
  | inter
  | difference
  | symmetricDifference

def SetOperator.apply (s t : CharSet) : SetOperator → CharSet
  | inter => s.inter t
  | difference => s.difference t
  | symmetricDifference => s.symmetricDifference t

-- What is left of a set operator that has been read, if there is one.
abbrev PendingSet := Option (SetOperator × NestedSet)

def Flags.complete (flags : Flags) (pending : PendingSet) (draft : SetDraft) : NestedSet :=
  let right := draft.toSet
  match pending with
  | Option.none => right
  | some (operator, left) =>
    { set := operator.apply (flags.foldCase left.set) (flags.foldCase right.set)
      depth := max left.depth right.depth + 1 }

def setChar? (flags : Flags) (c : Char) : Option CharSet :=
  if flags.asciiOnly && !Unicode.isAscii c then Option.none else some (.single c)

def setAtom? (flags : Flags) : List Char → Option (Atom × List Char)
  | [] => Option.none
  | '\\' :: cs => escape? flags cs
  | c :: cs => some (.char c, cs)

def itemOfAtom? (flags : Flags) : Atom → Option CharSet
  | .char c => setChar? flags c
  | .set s => some s
  | .place _ => Option.none

-- A character, a set or a range. A hyphen before the end or before another hyphen is no range.
def setItem? (flags : Flags) (cs : List Char) : Option (CharSet × List Char) := do
  let (first, cs) ← setAtom? flags cs
  match flags.skip cs with
  | [] => Option.none
  | '-' :: rest =>
    match flags.skip rest with
    | ']' :: _ | '-' :: _ => return (← itemOfAtom? flags first, '-' :: rest)
    | rest => do
      let (last, cs) ← setAtom? flags rest
      match first, last with
      | .char a, .char b => do
        let _ ← setChar? flags a
        let _ ← setChar? flags b
        if a ≤ b then return (.range a b, cs) else Option.none
      | _, _ => Option.none
  | cs => return (← itemOfAtom? flags first, cs)

-- A named class `[:name:]`, from behind its opening bracket. What is not one is read as a set
-- within the set.
def namedSet? (cs : List Char) : Option (Bool × CharSet × List Char) :=
  match cs with
  | ':' :: cs =>
    let (negated, cs) := match cs with
      | '^' :: cs => (true, cs)
      | cs => (false, cs)
    let name := cs.takeWhile (· != ':')
    match cs.drop name.length with
    | ':' :: ']' :: cs => (CharSet.ofAsciiName? (.ofList name)).map (negated, ·, cs)
    | _ => Option.none
  | _ => Option.none

-- Hyphens in front stand for themselves.
def leadingHyphens (flags : Flags) (draft : SetDraft) : Nat → List Char → SetDraft × List Char
  | 0, cs => (draft, cs)
  | fuel + 1, cs =>
    match flags.skip cs with
    | '-' :: cs => leadingHyphens flags (draft.push ⟨.single '-', 0⟩) fuel cs
    | cs => (draft, cs)

mutual

-- A set from behind its opening bracket. A closing bracket in front stands for itself.
def set? (flags : Flags) : Nat → List Char → Option (NestedSet × List Char)
  | 0, _ => Option.none
  | fuel + 1, cs => do
    let (negated, cs) := match flags.skip cs with
      | '^' :: cs => (true, cs)
      | cs => (false, cs)
    let (draft, rest) := leadingHyphens flags .none cs.length cs
    let (draft, rest) := match rest with
      | ']' :: after =>
        if 0 < draft.items then (draft, rest) else (draft.push ⟨.single ']', 0⟩, after)
      | _ => (draft, rest)
    let (read, rest) ← setItems? flags draft Option.none fuel rest
    return (⟨← flags.complement? negated (flags.foldCase read.set), read.depth + 1⟩, rest)

def setItems? (flags : Flags) (draft : SetDraft) (pending : PendingSet) :
    Nat → List Char → Option (NestedSet × List Char)
  | 0, _ => Option.none
  | fuel + 1, cs =>
    match flags.skip cs with
    | [] => Option.none
    | ']' :: cs => some (flags.complete pending draft, cs)
    | '[' :: cs =>
      match namedSet? cs with
      | some (negated, named, cs) => do
        let named ← flags.complement? negated (flags.foldCase named)
        setItems? flags (draft.push ⟨named, 0⟩) pending fuel cs
      | Option.none => do
        let (inner, cs) ← set? flags fuel cs
        setItems? flags (draft.push inner) pending fuel cs
    | '&' :: '&' :: cs =>
      setItems? flags .none (some (.inter, flags.complete pending draft)) fuel cs
    | '-' :: '-' :: cs =>
      setItems? flags .none (some (.difference, flags.complete pending draft)) fuel cs
    | '~' :: '~' :: cs =>
      setItems? flags .none (some (.symmetricDifference, flags.complete pending draft)) fuel cs
    | cs => do
      let (item, cs) ← setItem? flags cs
      setItems? flags (draft.push ⟨item, 0⟩) pending fuel cs

end

-- Groups and flags.

def isNameStart (c : Char) : Bool := c == '_' || Unicode.isAlphabetic c

def isNameRest (c : Char) : Bool :=
  c == '_' || c == '.' || c == '[' || c == ']' || Unicode.isAlphanumeric c

-- The name of a group, up to the closing bracket. Names must differ.
def groupName? (names : List String) (cs : List Char) : Option (String × List Char) :=
  let name := cs.takeWhile (· != '>')
  match name, cs.drop name.length with
  | c :: rest, '>' :: cs =>
    if isNameStart c && rest.all isNameRest && !names.contains (.ofList name) then
      some (.ofList name, cs)
    else Option.none
  | _, _ => Option.none

def Flags.set? (flags : Flags) (value : Bool) : Char → Option Flags
  | 'i' => some { flags with ignoreCase := value }
  | 'm' => some { flags with multiLine := value }
  | 's' => some { flags with dotAll := value }
  | 'U' => some { flags with swapGreed := value }
  | 'u' => some { flags with asciiOnly := !value }
  | 'R' => some { flags with anyBreak := value }
  | 'x' => some { flags with verbose := value }
  | _ => Option.none

-- Flags up to a colon or closing bracket. All behind a hyphen are switched off, and
-- none is given twice.
def flags? (flags : Flags) (value : Bool) (seen : List Char) :
    List Char → Option (Flags × List Char × List Char)
  | [] => Option.none
  | c :: cs =>
    if c == ':' || c == ')' then
      if seen.head? == some '-' then Option.none else some (flags, seen, c :: cs)
    else if seen.contains c then Option.none
    else if c == '-' then flags? flags false (c :: seen) cs
    else
      match flags.set? value c with
      | some flags => flags? flags value (c :: seen) cs
      | Option.none => Option.none

-- What an opening bracket opens: a group with flags of its own, or flags for what follows.
inductive Opening where
  | group (flags : Flags)
  | numberedGroup (name : Option String)
  | flags (flags : Flags)

-- Reads from behind an opening bracket.
def opening? (flags : Flags) (names : List String) (cs : List Char) :
    Option (Opening × List Char) :=
  match flags.skip cs with
  | '?' :: '=' :: _ => Option.none
  | '?' :: '!' :: _ => Option.none
  | '?' :: '<' :: '=' :: _ => Option.none
  | '?' :: '<' :: '!' :: _ => Option.none
  | '?' :: 'P' :: '<' :: cs | '?' :: '<' :: cs => do
    let (name, cs) ← groupName? names cs
    return (.numberedGroup (some name), cs)
  | '?' :: cs => do
    let (inner, seen, cs) ← flags? flags true [] cs
    match cs with
    | ')' :: cs => if seen.isEmpty then Option.none else return (.flags inner, cs)
    | _ :: cs => return (.group inner, cs)
    | [] => Option.none
  | cs => some (.numberedGroup Option.none, cs)

-- Repetitions.

def skipWhite (cs : List Char) : List Char := cs.dropWhile Unicode.isWhiteSpace

def digits (flags : Flags) (read : List Char) : Nat → List Char → List Char × List Char
  | 0, cs => (read.reverse, cs)
  | fuel + 1, cs =>
    match cs with
    | c :: rest =>
      if c.isDigit then digits flags (c :: read) fuel (flags.skip rest) else (read.reverse, cs)
    | [] => (read.reverse, [])

-- A count of repetitions, which has to fit 32 bits. White space around it does not count.
def count? (flags : Flags) (cs : List Char) : Option (Nat × List Char) :=
  let (text, cs) := digits flags [] cs.length (skipWhite cs)
  let n := text.foldl (fun n c => n * 10 + (c.toNat - '0'.toNat)) 0
  if text.isEmpty || Nat.pow 2 32 ≤ n then Option.none else some (n, flags.skip (skipWhite cs))

-- The counts from behind an opening brace.
def counts? (flags : Flags) (cs : List Char) : Option ((Nat × Option Nat) × List Char) := do
  let (least, cs) ← count? flags (flags.skip cs)
  match cs with
  | '\x7d' :: cs => return ((least, some least), cs)
  | ',' :: cs =>
    match flags.skip cs with
    | '\x7d' :: cs => return ((least, Option.none), cs)
    | cs => do
      let (most, cs) ← count? flags cs
      match cs with
      | '\x7d' :: cs => if least ≤ most then return ((least, some most), cs) else Option.none
      | _ => Option.none
  | _ => Option.none

-- Whether a repetition is marked as lazy.
def lazy : List Char → Bool × List Char
  | '?' :: cs => (true, cs)
  | cs => (false, cs)

def Flags.greedy (flags : Flags) (lazy : Bool) : Bool := lazy == flags.swapGreed

def Flags.linePlace (flags : Flags) (start : Bool) : Place :=
  match flags.multiLine, flags.anyBreak, start with
  | false, _, true => .textStart
  | false, _, false => .textEnd
  | true, false, true => .lineStart
  | true, false, false => .lineEnd
  | true, true, true => .lineStartAnyBreak
  | true, true, false => .lineEndAnyBreak

def Flags.atom (flags : Flags) : Atom → Expression
  | .char c => flags.char c
  | .set s => .ofSet s
  | .place p => .place p

-- An expression that has been read, and how deeply it is nested as it is written.
structure Nested where
  expression : Expression
  depth : Nat

namespace Nested

def leaf (e : Expression) : Nested := ⟨e, 0⟩

-- Flags are items like others, but empty ones.
def ofItem (item : Option Nested) : Nested := item.getD (leaf .empty)

def deepest (ns : List Nested) : Nat := (ns.map depth).foldl max 0

-- An item alone is no sequence, and a branch alone is no alternative.
def sequence (items : List (Option Nested)) : Nested :=
  match items.map ofItem with
  | [] => leaf .empty
  | [n] => n
  | ns => ⟨.ofSequence (ns.map expression), deepest ns + 1⟩

def alternatives : List Nested → Nested
  | [n] => n
  | ns => ⟨.ofAlternatives (ns.map expression), deepest ns + 1⟩

def limit : Nat := 250

end Nested

-- What has been read of a group: the names of groups and the number of those that are counted, and
-- the items and branches backwards.
structure Draft where
  names : List String
  groups : Nat
  items : List (Option Nested)
  branches : List Nested

namespace Draft

def none : Draft := ⟨[], 0, [], []⟩

def push (draft : Draft) (n : Nested) : Draft := { draft with items := some n :: draft.items }

def pushFlags (draft : Draft) : Draft := { draft with items := Option.none :: draft.items }

def branch (draft : Draft) : Draft :=
  { draft with items := [], branches := Nested.sequence draft.items.reverse :: draft.branches }

-- An inner group starts without items.
def inner (draft : Draft) (name : Option String) (groups : Nat) : Draft :=
  { names := name.toList ++ draft.names, groups := groups, items := [], branches := [] }

def toNested (draft : Draft) : Nested := .alternatives draft.branch.branches.reverse

-- Adds what has been read of an inner group.
def pushGroup (draft : Draft) (read : Draft) (index : Option Nat) : Draft :=
  let inner := read.toNested
  let e := match index with
    | some i => .group i inner.expression
    | Option.none => inner.expression
  { draft with names := read.names, groups := read.groups }.push ⟨e, inner.depth + 1⟩

-- Only what stands in front can be repeated, and flags cannot.
def repeatLast? (draft : Draft) (least : Nat) (most : Option Nat) (greedy : Bool) : Option Draft :=
  match draft.items with
  | some n :: items =>
    some { draft with items := some ⟨n.expression.repeat least most greedy, n.depth + 1⟩ :: items }
  | _ => Option.none

end Draft

-- Reads a group up to its closing bracket or to the end of the source. Every step takes at least
-- one character, so the length of the source bounds their number.
def group? (flags : Flags) (draft : Draft) : Nat → List Char → Option (Draft × List Char)
  | 0, _ => Option.none
  | fuel + 1, cs =>
    match flags.skip cs with
    | [] => some (draft, [])
    | ')' :: cs => some (draft, ')' :: cs)
    | '|' :: cs => group? flags draft.branch fuel cs
    | '(' :: cs => do
      let (opening, cs) ← opening? flags draft.names cs
      match opening with
      | .flags flags => group? flags draft.pushFlags fuel cs
      | .group inner => do
        let (read, cs) ← group? inner (draft.inner Option.none draft.groups) fuel cs
        match cs with
        | ')' :: cs => group? flags (draft.pushGroup read Option.none) fuel cs
        | _ => Option.none
      | .numberedGroup name => do
        let index := draft.groups + 1
        let (read, cs) ← group? flags (draft.inner name index) fuel cs
        match cs with
        | ')' :: cs => group? flags (draft.pushGroup read (some index)) fuel cs
        | _ => Option.none
    | '[' :: cs => do
      let (read, cs) ← set? flags fuel cs
      group? flags (draft.push ⟨.ofSet read.set, read.depth⟩) fuel cs
    | '*' :: cs => do
      let (lazy, cs) := lazy cs
      group? flags (← draft.repeatLast? 0 Option.none (flags.greedy lazy)) fuel cs
    | '+' :: cs => do
      let (lazy, cs) := lazy cs
      group? flags (← draft.repeatLast? 1 Option.none (flags.greedy lazy)) fuel cs
    | '?' :: cs => do
      let (lazy, cs) := lazy cs
      group? flags (← draft.repeatLast? 0 (some 1) (flags.greedy lazy)) fuel cs
    | '\x7b' :: cs => do
      let ((least, most), cs) ← counts? flags cs
      let (lazy, cs) := lazy (flags.skip cs)
      group? flags (← draft.repeatLast? least most (flags.greedy lazy)) fuel cs
    | '\\' :: cs => do
      let (atom, cs) ← escape? flags cs
      group? flags (draft.push (.leaf (flags.atom atom))) fuel cs
    | '.' :: cs => do group? flags (draft.push (.leaf (.ofSet (← flags.dot?)))) fuel cs
    | '^' :: cs => group? flags (draft.push (.leaf (.place (flags.linePlace true)))) fuel cs
    | '$' :: cs => group? flags (draft.push (.leaf (.place (flags.linePlace false)))) fuel cs
    | c :: cs => group? flags (draft.push (.leaf (flags.char c))) fuel cs

-- The expression that a whole source stands for.
def expression? (source : String) (ignoreCase : Bool) : Option Expression :=
  let cs := source.toList
  let flags := { Flags.none with ignoreCase := ignoreCase }
  match group? flags .none (cs.length + 1) cs with
  | some (draft, []) =>
    let read := draft.toNested
    if read.depth ≤ Nested.limit then some read.expression else Option.none
  | _ => Option.none

end RecordStore.Pattern
