import HexRules.Binary64
import Mathlib.Data.Rat.Floor
import Mathlib.Tactic

/-!
# The value of a number, and its integer part

A finite number stands for a rational, sign times significand times a power of two. Its integer part
is computed on the word, by a multiplication or a division in the natural numbers; said of the
rational, it is the floor of what is not negative, and the ceiling of what is.

Results:
* `floorSize_eq`: the size without its fraction is the floor of the size.
* `truncate_eq`: the integer part is that of the value.
-/

namespace HexRules

/-- A rational rounded toward zero. -/
def truncation (v : ℚ) : ℤ := if 0 ≤ v then ⌊v⌋ else ⌈v⌉

theorem truncation_neg (v : ℚ) : truncation (-v) = -truncation v := by
  unfold truncation
  rcases lt_trichotomy v 0 with hv | rfl | hv
  · rw [if_pos (by linarith), if_neg (by linarith), Int.floor_neg]
  · simp
  · rw [if_neg (by linarith), if_pos hv.le, Int.ceil_neg]

namespace Binary64

/-- The size of a finite number. -/
def size (x : Binary64) : ℚ := x.significand * 2 ^ x.exponent

/-- What a finite number stands for. -/
def value (x : Binary64) : ℚ := if x.negative then -x.size else x.size

theorem size_nonneg (x : Binary64) : 0 ≤ x.size := by
  unfold size
  positivity

theorem floorSize_eq (x : Binary64) : (x.floorSize : ℤ) = ⌊x.size⌋ := by
  unfold floorSize size
  simp only [Nat.pow_eq]
  split_ifs with he
  · have hpower : (2 : ℚ) ^ x.exponent = ((2 ^ x.exponent.toNat : ℕ) : ℚ) := by
      rw [Nat.cast_pow, Nat.cast_ofNat, ← zpow_natCast, Int.toNat_of_nonneg he]
    rw [hpower, ← Nat.cast_mul, Int.floor_natCast]
  · have hpower : (2 : ℚ) ^ x.exponent = (((2 ^ (-x.exponent).toNat : ℕ) : ℚ))⁻¹ := by
      rw [Nat.cast_pow, Nat.cast_ofNat, ← zpow_natCast, Int.toNat_of_nonneg (by omega), zpow_neg,
        inv_inv]
    rw [hpower, ← div_eq_mul_inv, Rat.floor_natCast_div_natCast, Int.natCast_div]

/-- The integer part of a number is its value rounded toward zero. -/
theorem truncate_eq (x : Binary64) : x.truncate = truncation x.value := by
  have hsize : truncation x.size = (x.floorSize : ℤ) := by
    rw [truncation, if_pos x.size_nonneg, floorSize_eq]
  unfold truncate value
  split_ifs
  · rw [truncation_neg, hsize]
  · rw [hsize]

end Binary64

end HexRules
