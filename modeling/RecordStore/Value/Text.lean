import RecordStore.Double.Decimal
import RecordStore.Value

-- The text of values: compact JSON, with the members of objects in the order of their names.

namespace RecordStore.Value

def hexDigit (n : Nat) : Char := (Nat.toDigits 16 n).getLastD '0'

-- Only quotes, backslashes and control characters are escaped.
def escape (c : Char) : List Char :=
  match c with
  | '"' => ['\\', '"']
  | '\\' => ['\\', '\\']
  | '\n' => ['\\', 'n']
  | '\r' => ['\\', 'r']
  | '\t' => ['\\', 't']
  | '\x08' => ['\\', 'b']
  | '\x0c' => ['\\', 'f']
  | c =>
    if c.val < 0x20 then ['\\', 'u', '0', '0', hexDigit (c.toNat / 16), hexDigit (c.toNat % 16)]
    else [c]

def quote (s : String) : String :=
  "\"" ++ String.ofList (s.toList.flatMap escape) ++ "\""

def numberText : Number → String
  | .int i _ => toString i
  | .double x => x.text

mutual

def text : Value → String
  | .null => "null"
  | .bool true => "true"
  | .bool false => "false"
  | .number n => numberText n
  | .string s => quote s
  | .array items => "[" ++ ",".intercalate (itemTexts items) ++ "]"
  | .object ⟨_, _, members⟩ => "\x7b" ++ ",".intercalate (memberTexts members) ++ "\x7d"

def itemTexts : List Value → List String
  | [] => []
  | v :: vs => text v :: itemTexts vs

def memberTexts : {names : List String} → Values Value names → List String
  | _, .nil => []
  | name :: _, .cons v vs => (quote name ++ ":" ++ text v) :: memberTexts vs

end

end RecordStore.Value
