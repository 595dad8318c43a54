import Mathlib.Algebra.Order.Field.Basic
import Mathlib.Algebra.Order.Ring.Rat
import Mathlib.Data.Int.Cast.Lemmas
import RecordStore.Value

-- What finite numbers denote and how they are ordered by it, and that all integers from `-2 ^ 53`
-- to `2 ^ 53` are finite numbers.

namespace RecordStore

namespace Double

-- The number that is denoted, which is a fraction.
def value (x : Double) : ℚ := x.position / one

-- Units are powers of two. How small they are does not matter.
theorem exists_one_eq : ∃ s, one = Nat.pow 2 s ∧ s ≤ 2044 := by
  delta one
  exact ⟨1074, .refl _, by decide⟩

theorem one_ne_zero : one ≠ 0 := by
  have ⟨s, eq, _⟩ := exists_one_eq
  rw [eq]
  exact (Nat.two_pow_pos s).ne'

theorem value_eq_iff {x y : Double} : x.value = y.value ↔ x.position = y.position := by
  have ne_zero : (one : ℚ) ≠ 0 := Nat.cast_ne_zero.mpr one_ne_zero
  rw [value, value, div_left_inj' ne_zero, Int.cast_inj]

theorem value_lt_iff {x y : Double} : x.value < y.value ↔ x.position < y.position := by
  have pos : (0 : ℚ) < one := Nat.cast_pos.mpr (Nat.pos_of_ne_zero one_ne_zero)
  rw [value, value, div_lt_div_iff_of_pos_right pos, Int.cast_lt]

-- Numbers are ordered by what they denote.
theorem compare_eq (x y : Double) : x.compare y = Ord.compare x.value y.value := by
  cases eq : x.compare y with
  | lt => exact (compare_lt_iff_lt.mpr (value_lt_iff.mpr (compare_lt_iff_lt.mp eq))).symm
  | eq => exact (compare_eq_iff_eq.mpr (value_eq_iff.mpr (compare_eq_iff_eq.mp eq))).symm
  | gt => exact (compare_gt_iff_gt.mpr (value_lt_iff.mpr (compare_gt_iff_gt.mp eq))).symm

theorem roundedQuotient_mul {d : Nat} (pos : 0 < d) (m : Nat) : roundedQuotient (d * m) d = m := by
  simp [roundedQuotient, pos]

-- Shifted to the right until 53 digits are left, a number has the form of a mantissa.
theorem canonical_of_shifted {n mantissa : Nat} (shifted : n = 2 ^ (n.log2 - 52) * mantissa)
    (small : n.log2 ≤ 2097) :
    Canonical mantissa (n.log2 - 52) := by
  have lt_pow : n < 2 ^ (n.log2 + 1) := Nat.lt_log2_self
  refine ⟨?_, or_iff_not_imp_left.mpr fun ne_zero => ?_, by omega⟩
  · have lt : 2 ^ (n.log2 - 52) * mantissa < 2 ^ (n.log2 - 52) * 2 ^ 53 := by
      rw [← shifted, ← Nat.pow_add]
      exact Nat.lt_of_lt_of_le lt_pow (Nat.pow_le_pow_right Nat.two_pos (by omega))
    exact Nat.lt_of_mul_lt_mul_left lt
  · have ne : n ≠ 0 := by rintro rfl; exact ne_zero rfl
    have le : 2 ^ (n.log2 - 52) * 2 ^ 52 ≤ 2 ^ (n.log2 - 52) * mantissa := by
      rw [← shifted, ← Nat.pow_add, Nat.sub_add_cancel (by omega)]
      exact Nat.log2_self_le ne
    exact Nat.le_of_mul_le_mul_left le (Nat.two_pow_pos _)

-- What can be shifted without a remainder is not rounded.
theorem ofUnits?_of_dvd {n : Nat} (negative : Bool) (whole : 2 ^ (n.log2 - 52) ∣ n)
    (small : n.log2 ≤ 2097) :
    ∃ x, ofUnits? negative n 1 = some x ∧ x.negative = negative ∧ x.units = n := by
  obtain ⟨mantissa, shifted⟩ := whole
  have canonical := canonical_of_shifted shifted small
  have quotient : roundedQuotient n (1 * Nat.pow 2 (n.log2 - 52)) = mantissa := by
    rw [Nat.one_mul]
    exact (congrArg (roundedQuotient · _) shifted).trans
      (roundedQuotient_mul (Nat.two_pow_pos _) mantissa)
  have ne : mantissa ≠ Nat.pow 2 53 := canonical.1.ne
  refine ⟨⟨negative, mantissa, n.log2 - 52, canonical⟩, ?_, rfl,
    (Nat.mul_comm ..).trans shifted.symm⟩
  simp only [ofUnits?, Nat.div_one, quotient, if_neg ne, dif_pos canonical]

-- No digits are lost of an integer that has no more of them, whatever it is counted in.
theorem dvd_of_le {k : Nat} (le : k ≤ 2 ^ 53) (s : Nat) :
    2 ^ ((k * Nat.pow 2 s).log2 - 52) ∣ k * Nat.pow 2 s ∧ (k * Nat.pow 2 s).log2 ≤ s + 53 := by
  simp only [Nat.pow_eq]
  rcases eq_or_ne k 0 with rfl | ne
  · simp
  have n_ne : k * 2 ^ s ≠ 0 := Nat.mul_ne_zero ne (Nat.two_pow_pos s).ne'
  rcases Nat.lt_or_eq_of_le le with lt | rfl
  · have log_lt : (k * 2 ^ s).log2 < s + 53 := by
      rw [Nat.log2_lt n_ne, Nat.add_comm, Nat.pow_add]
      exact Nat.mul_lt_mul_of_pos_right lt (Nat.two_pow_pos s)
    exact ⟨Nat.dvd_mul_left_of_dvd (Nat.pow_dvd_pow 2 (by omega)) k, log_lt.le⟩
  · rw [← Nat.pow_add, Nat.log2_two_pow]
    exact ⟨Nat.pow_dvd_pow 2 (by omega), by omega⟩

theorem value_ofInt {i : Int} (le : i.natAbs ≤ 2 ^ 53) : (ofInt i).value = i := by
  have ⟨s, one_eq, s_le⟩ := exists_one_eq
  have ⟨whole, log_le⟩ := dvd_of_le le s
  rw [← one_eq] at whole log_le
  obtain ⟨x, eq, negative, units⟩ := ofUnits?_of_dvd (i < 0) whole (by omega)
  have ofInt_eq : ofInt i = x := by rw [ofInt, eq]; rfl
  have position : (ofInt i).position = i * one := by
    rw [ofInt_eq, Double.position, negative, units, Nat.cast_mul]
    split
    case isTrue lt =>
      have le_zero : i ≤ 0 := (of_decide_eq_true lt).le
      rw [← Int.neg_mul, Int.ofNat_natAbs_of_nonpos le_zero, Int.neg_neg]
    case isFalse not_lt => rw [Int.natAbs_of_nonneg (by simpa using not_lt)]
  have ne_zero : (one : ℚ) ≠ 0 := Nat.cast_ne_zero.mpr one_ne_zero
  rw [value, position, Int.cast_mul, Int.cast_natCast, mul_div_cancel_right₀ _ ne_zero]

end Double

namespace Number

-- The number that is denoted, integers being themselves.
def value : Number → ℚ
  | .int i _ => i
  | .double x => x.value

-- The number that is denoted by the nearest finite number.
def rounded (n : Number) : ℚ := n.toDouble.value

theorem rounded_eq_value {n : Number} (fits : ∀ i range, n = .int i range → i.natAbs ≤ 2 ^ 53) :
    n.rounded = n.value := by
  cases n with
  | int i range => exact Double.value_ofInt (fits i range rfl)
  | double x => rfl

end Number
end RecordStore
