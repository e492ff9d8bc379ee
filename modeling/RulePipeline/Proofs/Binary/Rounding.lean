import RulePipeline.Binary.Basic

/-! Rounding keeps the order. Of two fractions with the same denominator, the greater one is never
rounded to the smaller number, whatever the powers of two that their significands are scaled by. So
integers as floating point numbers are still in order, though several of them may be the same. -/
namespace RulePipeline

attribute [local instance (high)] instPowNat

namespace Binary

variable {f : Format} {m n : Nat}

theorem roundDiv_eq (num den : Nat) : roundDiv num den =
    if 2 * (num % den) < den ∨ (2 * (num % den) = den ∧ num / den % 2 = 0) then num / den
    else num / den + 1 := rfl

theorem le_roundDiv (num den : Nat) : num / den ≤ roundDiv num den := by
  rw [roundDiv_eq]
  split <;> omega

theorem roundDiv_le (num den : Nat) : roundDiv num den ≤ num / den + 1 := by
  rw [roundDiv_eq]
  split <;> omega

theorem roundDiv_mono (le : m ≤ n) (den : Nat) : roundDiv m den ≤ roundDiv n den := by
  rcases Nat.eq_or_lt_of_le (Nat.div_le_div_right (c := den) le) with same | less
  · have remainders : m % den ≤ n % den := by
      have left := Nat.div_add_mod m den
      have right := Nat.div_add_mod n den
      rw [same] at left
      omega
    rw [roundDiv_eq, roundDiv_eq, same]
    split <;> split <;> omega
  · calc roundDiv m den ≤ m / den + 1 := roundDiv_le m den
      _ ≤ n / den := less
      _ ≤ roundDiv n den := le_roundDiv n den

namespace Format

/-- The power of two by which a number of so many units is scaled down to a significand. -/
def exponent (f : Format) (n : Nat) : Nat := Nat.log2 n - f.fracBits

theorem exponent_mono (f : Format) (le : m ≤ n) : f.exponent m ≤ f.exponent n := by
  by_cases zero : m = 0
  · have least : f.exponent m = 0 := by simp [exponent, zero]
    exact least ▸ Nat.zero_le _
  · have powers : m.log2 ≤ n.log2 :=
      (Nat.le_log2 (by omega)).mpr (Nat.le_trans (Nat.log2_self_le zero) le)
    exact Nat.sub_le_sub_right powers _

theorem significand_lt (f : Format) (n : Nat) :
    n / 2 ^ f.exponent n < 2 ^ f.fracBits + 2 ^ f.fracBits := by
  rw [Nat.div_lt_iff_lt_mul (Nat.two_pow_pos _)]
  calc n < 2 ^ (n.log2 + 1) := Nat.lt_log2_self
    _ ≤ 2 ^ (f.fracBits + 1 + f.exponent n) :=
      Nat.pow_le_pow_right Nat.two_pos (by unfold exponent; omega)
    _ = (2 ^ f.fracBits + 2 ^ f.fracBits) * 2 ^ f.exponent n := by
      rw [Nat.pow_add, Nat.pow_succ, Nat.mul_two]

theorem le_significand (scaled : 0 < f.exponent n) : 2 ^ f.fracBits ≤ n / 2 ^ f.exponent n := by
  have nonzero : n ≠ 0 := by
    rintro rfl
    simp [exponent] at scaled
  rw [Nat.le_div_iff_mul_le (Nat.two_pow_pos _), ← Nat.pow_add]
  have split : f.fracBits + f.exponent n = n.log2 := by
    unfold exponent at scaled ⊢
    omega
  rw [split]
  exact Nat.log2_self_le nonzero

/-- The magnitude that a fraction has where there is no bound to it. -/
def unbounded (f : Format) (num den : Nat) : Nat :=
  f.exponent (num / den) * 2 ^ f.fracBits + roundDiv num (den * 2 ^ f.exponent (num / den))

theorem round_eq (f : Format) (num den : Nat) :
    f.round num den = min (f.unbounded num den) f.infinity := rfl

theorem unbounded_mono (f : Format) (le : m ≤ n) (den : Nat) :
    f.unbounded m den ≤ f.unbounded n den := by
  have quotients : m / den ≤ n / den := Nat.div_le_div_right le
  unfold unbounded
  rcases Nat.eq_or_lt_of_le (f.exponent_mono quotients) with same | less
  · rw [same]
    exact Nat.add_le_add_left (roundDiv_mono le _) _
  · -- What has the smaller exponent is rounded up to the next power of two at most.
    have above : roundDiv m (den * 2 ^ f.exponent (m / den)) ≤ 2 ^ f.fracBits + 2 ^ f.fracBits := by
      have bound := f.significand_lt (m / den)
      rw [Nat.div_div_eq_div_mul] at bound
      exact Nat.le_trans (roundDiv_le _ _) bound
    have below : 2 ^ f.fracBits ≤ roundDiv n (den * 2 ^ f.exponent (n / den)) := by
      have bound := le_significand (f := f) (n := n / den) (by omega)
      rw [Nat.div_div_eq_div_mul] at bound
      exact Nat.le_trans bound (le_roundDiv _ _)
    have exponents : (f.exponent (m / den) + 1) * 2 ^ f.fracBits ≤
        f.exponent (n / den) * 2 ^ f.fracBits := Nat.mul_le_mul_right _ less
    rw [Nat.succ_mul] at exponents
    omega

theorem round_mono (f : Format) (le : m ≤ n) (den : Nat) : f.round m den ≤ f.round n den := by
  have magnitudes := f.unbounded_mono le den
  rw [round_eq, round_eq]
  omega

end Format

/-- The place in the order, for a number. -/
def place : Binary f → Int
  | .nan => 0
  | .num neg mag => rank neg mag

theorem order_of_numbers {x y : Binary f} (left : ¬ x.isNaN) (right : ¬ y.isNaN) :
    x.order y = some (compare x.place y.place) := by
  cases x with
  | nan => exact absurd rfl left
  | num sx mx =>
    cases y with
    | nan => exact absurd rfl right
    | num sy my => rfl

theorem place_ofInt (n : Int) : (ofInt n : Binary f).place =
    rank (n < 0) (f.round (n.natAbs * 2 ^ f.scale) 1) := rfl

/-- A greater integer is not a smaller floating point number. -/
theorem place_ofInt_mono {m n : Int} (le : m ≤ n) :
    (ofInt m : Binary f).place ≤ (ofInt n : Binary f).place := by
  rw [place_ofInt, place_ofInt]
  unfold rank
  by_cases left : m < 0 <;> by_cases right : n < 0
  · have magnitudes := f.round_mono
      (Nat.mul_le_mul_right (2 ^ f.scale) (show n.natAbs ≤ m.natAbs by omega)) 1
    simp only [left, right, decide_true, if_true]
    omega
  · simp only [left, right, decide_true, decide_false, if_true, Bool.false_eq_true, if_false]
    omega
  · omega
  · have magnitudes := f.round_mono
      (Nat.mul_le_mul_right (2 ^ f.scale) (show m.natAbs ≤ n.natAbs by omega)) 1
    simp only [left, right, decide_false, Bool.false_eq_true, if_false]
    omega

end Binary

end RulePipeline
