import RecordStore.Double.Decimal
import RecordStore.Unicode.Property
import RecordStore.Value.Text

-- Annotated text, in which messages show lists of names and values together with their types.
--
-- Strings are quoted so that every character that could not be seen is escaped.

namespace RecordStore

def annotatedChar (c : Char) : List Char :=
  match c with
  | '"' => ['\\', '"']
  | '\\' => ['\\', '\\']
  | '\n' => ['\\', 'n']
  | '\r' => ['\\', 'r']
  | '\t' => ['\\', 't']
  | '\x00' => ['\\', '0']
  | c =>
    if Unicode.isCombining c || !Unicode.isPrintable c then
      ['\\', 'u', '\x7b'] ++ Nat.toDigits 16 c.toNat ++ ['\x7d']
    else [c]

def annotatedString (s : String) : String :=
  "\"" ++ String.ofList (s.toList.flatMap annotatedChar) ++ "\""

def annotatedList (texts : List String) : String :=
  "[" ++ ", ".intercalate texts ++ "]"

def annotatedMap (texts : List String) : String :=
  "\x7b" ++ ", ".intercalate texts ++ "\x7d"

def annotatedStrings (strings : List String) : String :=
  annotatedList (strings.map annotatedString)

namespace Value

mutual

def annotated : Value → String
  | .null => "Null"
  | .bool true => "Bool(true)"
  | .bool false => "Bool(false)"
  | .number n => "Number(" ++ numberText n ++ ")"
  | .string s => "String(" ++ annotatedString s ++ ")"
  | .array items => "Array " ++ annotatedList (annotatedItems items)
  | .object ⟨_, _, members⟩ => "Object " ++ annotatedMap (annotatedMembers members)

def annotatedItems : List Value → List String
  | [] => []
  | v :: vs => annotated v :: annotatedItems vs

def annotatedMembers : {names : List String} → Values Value names → List String
  | _, .nil => []
  | name :: _, .cons v vs => (annotatedString name ++ ": " ++ annotated v) :: annotatedMembers vs

end

end Value

end RecordStore
