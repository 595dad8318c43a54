import RecordStore.Pattern.CharSet

namespace RecordStore.CharSet

open Unicode (Category)

def ofPairs (pairs : List (Unicode.Range × Category)) (categories : List Category) : CharSet :=
  ofRanges ((pairs.filter fun p => categories.contains p.2).map (·.1))

-- The characters of the given categories. Where the editions differ, the earlier one counts.
def category (categories : List Category) : CharSet :=
  let changed := ofRanges (Unicode.earlierCategories.map (·.1))
  ((ofPairs Unicode.categoryRanges categories).difference changed).union
    (ofPairs Unicode.earlierCategories categories)

-- A set that the tables list, without the characters of the later edition.
def listed (ranges : Unicode.Ranges) : CharSet := (ofRanges ranges).difference addedLater

def alphabetic : CharSet :=
  (category (.letterNumber :: Category.letters)).union (listed Unicode.otherAlphabetic)

def uppercase : CharSet := (category [.uppercaseLetter]).union (listed Unicode.otherUppercase)

def lowercase : CharSet := (category [.lowercaseLetter]).union (listed Unicode.otherLowercase)

def whiteSpace : CharSet := listed Unicode.whiteSpace

def digit : CharSet := category [.decimalNumber]

-- The characters of words: letters, marks, digits, connectors and the two joiners.
def word : CharSet :=
  (alphabetic.union (category (.decimalNumber :: .connectorPunctuation :: Category.marks))).union
    (listed Unicode.joinControl)

def asciiDigit : CharSet := range '0' '9'

def asciiSpace : CharSet := ofChars [('\t', '\r'), (' ', ' ')]

def asciiWord : CharSet := ofChars [('0', '9'), ('A', 'Z'), ('_', '_'), ('a', 'z')]

-- The classes that are written as names between colons.
def ofAsciiName? : String → Option CharSet
  | "alnum" => some (ofChars [('0', '9'), ('A', 'Z'), ('a', 'z')])
  | "alpha" => some (ofChars [('A', 'Z'), ('a', 'z')])
  | "ascii" => some (range '\x00' '\x7f')
  | "blank" => some (ofChars [('\t', '\t'), (' ', ' ')])
  | "cntrl" => some (ofChars [('\x00', '\x1f'), ('\x7f', '\x7f')])
  | "digit" => some asciiDigit
  | "graph" => some (range '!' '~')
  | "lower" => some (range 'a' 'z')
  | "print" => some (range ' ' '~')
  | "punct" => some (ofChars [('!', '/'), (':', '@'), ('[', '\x60'), ('\x7b', '~')])
  | "space" => some asciiSpace
  | "upper" => some (range 'A' 'Z')
  | "word" => some asciiWord
  | "xdigit" => some (ofChars [('0', '9'), ('A', 'F'), ('a', 'f')])
  | _ => Option.none

open Unicode.Category in
-- The general categories and groups of them, by their short and long names.
-- Surrogates are no characters.
def categoryNames : List (List String × List Category) :=
  [(["c", "other"], [control, format, privateUse, unassigned]),
   (["cc", "control", "cntrl"], [control]),
   (["cf", "format"], [format]),
   (["cn", "unassigned"], [unassigned]),
   (["co", "privateuse"], [privateUse]),
   (["l", "letter"], letters),
   (["lc", "casedletter"], [uppercaseLetter, lowercaseLetter, titlecaseLetter]),
   (["ll", "lowercaseletter"], [lowercaseLetter]),
   (["lm", "modifierletter"], [modifierLetter]),
   (["lo", "otherletter"], [otherLetter]),
   (["lt", "titlecaseletter"], [titlecaseLetter]),
   (["lu", "uppercaseletter"], [uppercaseLetter]),
   (["m", "mark", "combiningmark"], marks),
   (["mc", "spacingmark"], [spacingMark]),
   (["me", "enclosingmark"], [enclosingMark]),
   (["mn", "nonspacingmark"], [nonspacingMark]),
   (["n", "number"], numbers),
   (["nd", "decimalnumber", "digit"], [decimalNumber]),
   (["nl", "letternumber"], [letterNumber]),
   (["no", "othernumber"], [otherNumber]),
   (["p", "punctuation", "punct"],
     [connectorPunctuation, dashPunctuation, openPunctuation, closePunctuation, initialPunctuation,
      finalPunctuation, otherPunctuation]),
   (["pc", "connectorpunctuation"], [connectorPunctuation]),
   (["pd", "dashpunctuation"], [dashPunctuation]),
   (["pe", "closepunctuation"], [closePunctuation]),
   (["pf", "finalpunctuation"], [finalPunctuation]),
   (["pi", "initialpunctuation"], [initialPunctuation]),
   (["po", "otherpunctuation"], [otherPunctuation]),
   (["ps", "openpunctuation"], [openPunctuation]),
   (["s", "symbol"], [mathSymbol, currencySymbol, modifierSymbol, otherSymbol]),
   (["sc", "currencysymbol"], [currencySymbol]),
   (["sk", "modifiersymbol"], [modifierSymbol]),
   (["sm", "mathsymbol"], [mathSymbol]),
   (["so", "othersymbol"], [otherSymbol]),
   (["z", "separator"], [spaceSeparator, lineSeparator, paragraphSeparator]),
   (["zl", "lineseparator"], [lineSeparator]),
   (["zp", "paragraphseparator"], [paragraphSeparator]),
   (["zs", "spaceseparator"], [spaceSeparator])]

def ofCategoryName? (name : String) : Option CharSet :=
  match name with
  | "any" => some all
  | "ascii" => some (range '\x00' '\x7f')
  | "assigned" => some (category [.unassigned]).complement
  | _ => (categoryNames.find? (·.1.contains name)).map fun entry => category entry.2

-- In names of properties, case, blanks, hyphens and underscores do not matter, nor
-- does `is` in front.
def looseName (name : List Char) : String :=
  let letters := fun (cs : List Char) =>
    (cs.filter fun c => Unicode.isAscii c && !(c == ' ' || c == '_' || c == '-')).map Char.toLower
  match name.take 2 |>.map Char.toLower with
  | ['i', 's'] =>
    let rest := letters (name.drop 2)
    if rest == ['c'] then "isc" else .ofList rest
  | _ => .ofList (letters name)

def ofPropertyName? (name : List Char) : Option CharSet :=
  match looseName name with
  | "alphabetic" | "alpha" => some alphabetic
  | "uppercase" | "upper" => some uppercase
  | "lowercase" | "lower" => some lowercase
  | "whitespace" | "space" | "wspace" => some whiteSpace
  | loose => ofCategoryName? loose

def ofPropertyValue? (property value : List Char) : Option CharSet :=
  match looseName property with
  | "gc" | "generalcategory" => ofCategoryName? (looseName value)
  | _ => Option.none

end RecordStore.CharSet
