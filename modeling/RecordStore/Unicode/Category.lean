import RecordStore.Unicode.CategoryTable
import RecordStore.Unicode.Ranges

namespace RecordStore.Unicode

inductive Category where
  | uppercaseLetter | lowercaseLetter | titlecaseLetter | modifierLetter | otherLetter
  | nonspacingMark | spacingMark | enclosingMark
  | decimalNumber | letterNumber | otherNumber
  | connectorPunctuation | dashPunctuation | openPunctuation | closePunctuation
  | initialPunctuation | finalPunctuation | otherPunctuation
  | mathSymbol | currencySymbol | modifierSymbol | otherSymbol
  | spaceSeparator | lineSeparator | paragraphSeparator
  | control | format | surrogate | privateUse | unassigned
deriving DecidableEq, Inhabited

namespace Category

def all : List Category :=
  [uppercaseLetter, lowercaseLetter, titlecaseLetter, modifierLetter, otherLetter,
   nonspacingMark, spacingMark, enclosingMark, decimalNumber, letterNumber, otherNumber,
   connectorPunctuation, dashPunctuation, openPunctuation, closePunctuation,
   initialPunctuation, finalPunctuation, otherPunctuation,
   mathSymbol, currencySymbol, modifierSymbol, otherSymbol,
   spaceSeparator, lineSeparator, paragraphSeparator,
   control, format, surrogate, privateUse, unassigned]

def abbreviation : Category → String
  | uppercaseLetter => "Lu"
  | lowercaseLetter => "Ll"
  | titlecaseLetter => "Lt"
  | modifierLetter => "Lm"
  | otherLetter => "Lo"
  | nonspacingMark => "Mn"
  | spacingMark => "Mc"
  | enclosingMark => "Me"
  | decimalNumber => "Nd"
  | letterNumber => "Nl"
  | otherNumber => "No"
  | connectorPunctuation => "Pc"
  | dashPunctuation => "Pd"
  | openPunctuation => "Ps"
  | closePunctuation => "Pe"
  | initialPunctuation => "Pi"
  | finalPunctuation => "Pf"
  | otherPunctuation => "Po"
  | mathSymbol => "Sm"
  | currencySymbol => "Sc"
  | modifierSymbol => "Sk"
  | otherSymbol => "So"
  | spaceSeparator => "Zs"
  | lineSeparator => "Zl"
  | paragraphSeparator => "Zp"
  | control => "Cc"
  | format => "Cf"
  | surrogate => "Cs"
  | privateUse => "Co"
  | unassigned => "Cn"

def ofAbbreviation? (text : String) : Option Category :=
  all.find? (·.abbreviation == text)

def letters : List Category :=
  [uppercaseLetter, lowercaseLetter, titlecaseLetter, modifierLetter, otherLetter]

def marks : List Category := [nonspacingMark, spacingMark, enclosingMark]

def numbers : List Category := [decimalNumber, letterNumber, otherNumber]

end Category

-- The runs of the table, each with the code point it starts at.
def categoryRuns : Array (Nat × Category) :=
  ((entries categoryTable).map fun entry =>
    let start := entry.takeWhile fun c => !c.isUpper
    let name := entry.drop start.length
    (hexValue start, (Category.ofAbbreviation? (.ofList name)).getD .unassigned)).toArray

-- Halves the part of the table from `low` up to `high` until it holds only one run.
def runAt (runs : Array (Nat × Category)) (n low high : Nat) : Nat → Category
  | 0 => (runs[low]?.map (·.2)).getD .unassigned
  | fuel + 1 =>
    if high ≤ low + 1 then (runs[low]?.map (·.2)).getD .unassigned
    else
      let middle := (low + high) / 2
      if (runs[middle]?.map (·.1)).getD 0 ≤ n then runAt runs n middle high fuel
      else runAt runs n low middle fuel

def category (c : Char) : Category :=
  runAt categoryRuns c.toNat 0 categoryRuns.size categoryRuns.size.log2.succ

-- The runs as ranges. The last one ends with the last code point.
def rangesOfRuns : List (Nat × Category) → List (Range × Category)
  | [] => []
  | [(first, category)] => [(⟨first, 0x10ffff⟩, category)]
  | (first, category) :: (next, other) :: runs =>
    (⟨first, next - 1⟩, category) :: rangesOfRuns ((next, other) :: runs)

def categoryRanges : List (Range × Category) := rangesOfRuns categoryRuns.toList

end RecordStore.Unicode
