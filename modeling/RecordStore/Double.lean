-- Finite numbers of 64 bits: a sign, 53 binary digits and a power of two.
--
-- Every operation computes the exact result on natural numbers and rounds it once, to the nearest
-- number and of two equally near ones to the even mantissa.

namespace RecordStore

-- The powers of two are counted from the smallest one, `2 ^ (-1074)`.
def Double.Canonical (mantissa exponent : Nat) : Prop :=
  mantissa < Nat.pow 2 53 ∧ (exponent = 0 ∨ Nat.pow 2 52 ≤ mantissa) ∧ exponent ≤ 2045

instance : Decidable (Double.Canonical m e) :=
  inferInstanceAs (Decidable (_ ∧ _))

-- The number `± mantissa * 2 ^ (exponent - 1074)`.
structure Double where
  negative : Bool
  mantissa : Nat
  exponent : Nat
  canonical : Double.Canonical mantissa exponent
deriving DecidableEq

namespace Double

def zero (negative : Bool) : Double where
  negative := negative
  mantissa := 0
  exponent := 0
  canonical := by decide

instance : Inhabited Double := ⟨zero false⟩

def isZero (x : Double) : Bool := x.mantissa == 0

-- The magnitude, counted in units of the smallest positive number.
def units (x : Double) : Nat := x.mantissa * Nat.pow 2 x.exponent

-- The value, counted in units of the smallest positive number. Both zeros are at `0`.
def position (x : Double) : Int := if x.negative then -(x.units : Int) else x.units

def compare (x y : Double) : Ordering := Ord.compare x.position y.position

-- The quotient rounded to the nearest natural number, and of two equally near ones to the even one.
def roundedQuotient (n d : Nat) : Nat :=
  let q := n / d
  let r := n % d
  if 2 * r < d then q
  else if d < 2 * r then q + 1
  else q + q % 2

-- The number nearest to `n / d` units. There is none if the quotient is too large.
def ofUnits? (negative : Bool) (n d : Nat) : Option Double :=
  let exponent := (n / d).log2 - 52
  let mantissa := roundedQuotient n (d * Nat.pow 2 exponent)
  -- Rounding up can yield the next power of two, which has one digit too many.
  let (mantissa, exponent) :=
    if mantissa = Nat.pow 2 53 then (Nat.pow 2 52, exponent + 1) else (mantissa, exponent)
  if h : Canonical mantissa exponent then some ⟨negative, mantissa, exponent, h⟩ else none

-- A unit is `2 ^ (-1074)`, so `1` has this many of them.
def one : Nat := Nat.pow 2 1074

-- The number nearest to an integer. Integers of 64 bits are never too large.
def ofInt (i : Int) : Double :=
  (ofUnits? (i < 0) (i.natAbs * one) 1).getD (zero false)

end Double

end RecordStore
