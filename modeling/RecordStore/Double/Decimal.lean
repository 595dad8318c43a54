import RecordStore.Double

-- Decimal notation of finite numbers.
--
-- Reading yields the number that is nearest to what is written. Writing yields the fewest digits
-- from which the written number is read again, and of those the digits that are nearest to it.

namespace RecordStore.Double

-- The number nearest to `± digits * 10 ^ exponent`. There is none if that is too large.
def ofDecimal? (negative : Bool) (digits : Nat) (exponent : Int) : Option Double :=
  -- The decimal point is after this many digits.
  let point := (Nat.toDigits 10 digits).length + exponent
  -- Powers of ten are formed only where the value is neither far too small nor far too large.
  if digits = 0 ∨ point < -330 then some (zero negative)
  else if 310 < point then none
  else ofUnits? negative (digits * Nat.pow 10 exponent.toNat * one) (Nat.pow 10 (-exponent).toNat)

-- Decimal digits `d₁d₂…dₙ` that stand for `± d₁.d₂…dₙ * 10 ^ exponent`.
structure Digits where
  digits : List Char
  exponent : Int

-- The number of times that `n` can be multiplied by ten before it reaches `d`.
def stepsBelow (n d : Nat) : Nat → Nat
  | 0 => 0
  | fuel + 1 => if d ≤ n then 0 else stepsBelow (10 * n) d fuel + 1

-- The exponent of the leading decimal digit of `n / d`. No finite number needs more than 324 steps.
def leadingExponent (n d : Nat) : Int :=
  if d ≤ n then ((Nat.toDigits 10 (n / d)).length : Int) - 1
  else -(stepsBelow n d 400 : Int)

-- The numbers that are read as one finite number: all between two ends, counted in
-- quarters of a unit.
structure Interval where
  low : Nat
  value : Nat
  high : Nat
  closed : Bool

def interval (x : Double) : Interval :=
  let quarter := Nat.pow 2 x.exponent
  -- Below a power of two the numbers lie closer together.
  let low :=
    if x.mantissa = Nat.pow 2 52 ∧ 0 < x.exponent then 4 * x.mantissa - 1 else 4 * x.mantissa - 2
  { low := low * quarter
    value := 4 * x.mantissa * quarter
    high := (4 * x.mantissa + 2) * quarter
    closed := x.mantissa % 2 = 0 }

-- Whether `n / d` lies in the interval.
def Interval.contains (i : Interval) (n d : Nat) : Bool :=
  if i.closed then i.low * d ≤ n && n ≤ i.high * d
  else i.low * d < n && n < i.high * d

-- The multiple of `10 ^ exponent` that is nearest to the value, if it lies in the interval. Only
-- the two neighbours of the value can be nearest, and of two equally near ones it is the even one.
def Interval.nearest? (i : Interval) (exponent : Int) : Option Nat :=
  -- In quarters of a unit, the grid is spaced by `step / scale`.
  let step := 4 * one * Nat.pow 10 exponent.toNat
  let scale := Nat.pow 10 (-exponent).toNat
  let k := i.value * scale / step
  let below := i.contains (k * step) scale
  let above := i.contains ((k + 1) * step) scale
  if below && above then
    some (roundedQuotient (i.value * scale) step)
  else if below then some k
  else if above then some (k + 1)
  else none

-- The first grid with a multiple in the interval, from coarse to fine.
-- Seventeen digits always suffice.
def Interval.shortest (i : Interval) (leading : Int) : Nat → Nat × Int
  | 0 => (0, 0)
  | fuel + 1 =>
    match i.nearest? leading with
    | some k => (k, leading)
    | none => i.shortest (leading - 1) fuel

def shortestDigits (x : Double) : Digits :=
  let i := x.interval
  let leading := leadingExponent x.units one
  let (k, exponent) := i.shortest leading 18
  let digits := Nat.toDigits 10 k
  -- A carry can leave zeros at the end.
  let trimmed := (digits.reverse.dropWhile (· == '0')).reverse
  { digits := trimmed
    exponent := exponent + digits.length - 1 }

-- Digits are written around the point for exponents from `-5` to `15`, with at least one digit on
-- either side of it, and with a signed exponent otherwise.
def Digits.text (d : Digits) : String :=
  let n : Int := d.digits.length
  if 0 ≤ d.exponent ∧ d.exponent ≤ 15 then
    let whole := (d.exponent + 1).toNat
    let padded := d.digits ++ List.replicate (whole - d.digits.length) '0'
    let fraction := if n ≤ whole then ['0'] else d.digits.drop whole
    String.ofList (padded.take whole ++ '.' :: fraction)
  else if -5 ≤ d.exponent ∧ d.exponent < 0 then
    String.ofList ('0' :: '.' :: List.replicate (d.exponent.natAbs - 1) '0' ++ d.digits)
  else
    let mantissa := d.digits.take 1 ++ (if 1 < n then '.' :: d.digits.drop 1 else [])
    let sign := if d.exponent < 0 then '-' else '+'
    String.ofList (mantissa ++ 'e' :: sign :: Nat.toDigits 10 d.exponent.natAbs)

def text (x : Double) : String :=
  let magnitude := if x.isZero then "0.0" else x.shortestDigits.text
  if x.negative then "-" ++ magnitude else magnitude

end RecordStore.Double
