import RulePipeline.Relation

/-! The order of numbers. Integers of all families have the order of the integers that they are,
and a pair with a float in it that of the doubles. There is no order only where there is a NaN. -/
namespace RulePipeline

namespace Binary

variable {f : Format}

theorem order_eq_none {x y : Binary f} : x.order y = none ↔ x.isNaN ∨ y.isNaN := by
  cases x <;> cases y <;> simp [order, isNaN]

theorem isNaN_cast (g : Format) (x : Binary f) : (x.cast g).isNaN = x.isNaN := by
  cases x with
  | nan => rfl
  | num neg mag =>
    rw [cast]
    split <;> rfl

end Binary

theorem compare_natCast (m n : Nat) : compare (m : Int) (n : Int) = compare m n := by
  simp only [Int.compare_eq_ite_lt, Nat.compare_eq_ite_lt, Int.ofNat_lt]

namespace Numeric

variable {p q : Numeric}

def isNaN : Numeric → Bool
  | .float x => x.isNaN
  | _ => false

theorem isNaN_toFloat (p : Numeric) : p.toFloat.isNaN = p.isNaN := by
  cases p <;> rfl

theorem not_isNaN_of_int {m : Int} (integer : p.int? = some m) : ¬ p.isNaN := by
  cases p with
  | float x => cases integer
  | _ => exact Bool.false_ne_true

theorem order_of_int {m n : Int} (left : p.int? = some m) (right : q.int? = some n) :
    p.order q = some (compare m n) := by
  cases p with
  | float x => cases left
  | signed a =>
    cases left
    cases q with
    | float y => cases right
    | signed b =>
      cases right
      rfl
    | unsigned b =>
      cases right
      by_cases negative : m < 0
      · have less : m < (b : Int) := by omega
        rw [order, if_pos negative, Int.compare_eq_lt.mpr less]
      · have same : ((m.toNat : Nat) : Int) = m := Int.toNat_of_nonneg (by omega)
        rw [order, if_neg negative, ← compare_natCast, same]
  | unsigned a =>
    cases left
    cases q with
    | float y => cases right
    | unsigned b =>
      cases right
      rw [order, compare_natCast]
    | signed b =>
      cases right
      by_cases negative : n < 0
      · have greater : n < (a : Int) := by omega
        rw [order, if_pos negative, Int.compare_eq_gt.mpr greater]
      · have same : ((n.toNat : Nat) : Int) = n := Int.toNat_of_nonneg (by omega)
        rw [order, if_neg negative, ← compare_natCast, same]

theorem order_of_float (float : p.int? = none ∨ q.int? = none) :
    p.order q = p.toFloat.order q.toFloat := by
  cases p with
  | float x => cases q <;> rfl
  | _ =>
    cases q with
    | float y => rfl
    | _ => rcases float with integer | integer <;> cases integer

theorem order_eq_none : p.order q = none ↔ p.isNaN ∨ q.isNaN := by
  cases left : p.int? with
  | none => rw [order_of_float (.inl left), Binary.order_eq_none, isNaN_toFloat, isNaN_toFloat]
  | some m =>
    cases right : q.int? with
    | none => rw [order_of_float (.inr right), Binary.order_eq_none, isNaN_toFloat, isNaN_toFloat]
    | some n => simp [order_of_int left right, not_isNaN_of_int left, not_isNaN_of_int right]

end Numeric

namespace Value

variable {lhs rhs v : Value} {p q : Numeric}

def isNumber (v : Value) : Bool := v.resolved.numeric?.isSome

def isNaN (v : Value) : Bool :=
  match v.resolved with
  | .f32 x => x.isNaN
  | .f64 x => x.isNaN
  | _ => false

/-- Two numbers, and one of them at least is a NaN. -/
def Unordered (lhs rhs : Value) : Prop :=
  lhs.isNumber ∧ rhs.isNumber ∧ (lhs.isNaN ∨ rhs.isNaN)

theorem isNaN_of_numeric (number : v.resolved.numeric? = some p) : p.isNaN = v.isNaN := by
  unfold isNaN
  cases resolved : v.resolved with
  | int n =>
    rw [resolved] at number
    cases number
    cases n.kind.signed <;> rfl
  | f32 x =>
    rw [resolved] at number
    cases number
    exact Binary.isNaN_cast .double x
  | f64 x =>
    rw [resolved] at number
    cases number
    rfl
  | _ =>
    rw [resolved] at number
    cases number

/-- Of two numbers, there is no order exactly where they count as unordered. -/
theorem unordered_iff (left : lhs.resolved.numeric? = some p)
    (right : rhs.resolved.numeric? = some q) : Unordered lhs rhs ↔ p.order q = none := by
  rw [Unordered, isNumber, isNumber, left, right, Numeric.order_eq_none, isNaN_of_numeric left,
    isNaN_of_numeric right]
  simp

theorem isNil_of_numeric (number : v.numeric? = some p) : v.isNil = false := by
  cases v with
  | nil => cases number
  | _ => rfl

theorem compareResolved_numbers (left : lhs.numeric? = some p) (right : rhs.numeric? = some q)
    (r : Relation) : lhs.compareResolved rhs r = .ok (r.holds (p.order q)) := by
  rw [compareResolved, isNil_of_numeric left, isNil_of_numeric right, left, right]
  rfl

end Value

end RulePipeline
