import RulePipeline.Proofs.Relation.Numbers

/-! Integers compare as the numbers that they are, whatever their kinds. Neither a negative integer
nor one beyond the signed kinds is taken for another number on the way to the comparison. -/
namespace RulePipeline

namespace Relation

/-- A relation between two integers; the unset one holds of none. -/
def Between : Relation → Int → Int → Prop
  | .unset, _, _ => False
  | .equal, m, n => m = n
  | .notEqual, m, n => m ≠ n
  | .greater, m, n => m > n
  | .less, m, n => m < n
  | .greaterEqual, m, n => m ≥ n
  | .lessEqual, m, n => m ≤ n

instance decideBetween : (r : Relation) → (m n : Int) → Decidable (r.Between m n)
  | .unset, _, _ => .isFalse id
  | .equal, m, n => inferInstanceAs (Decidable (m = n))
  | .notEqual, m, n => inferInstanceAs (Decidable (m ≠ n))
  | .greater, m, n => inferInstanceAs (Decidable (m > n))
  | .less, m, n => inferInstanceAs (Decidable (m < n))
  | .greaterEqual, m, n => inferInstanceAs (Decidable (m ≥ n))
  | .lessEqual, m, n => inferInstanceAs (Decidable (m ≤ n))

theorem holds_compare (r : Relation) (m n : Int) :
    r.holds (some (compare m n)) = decide (r.Between m n) := by
  rw [Bool.eq_iff_iff, decide_eq_true_iff]
  cases r with
  | unset => simp [holds, Between]
  | equal => simp [holds, Between]
  | notEqual => simp [holds, Between]
  | greater => simp [holds, Between, Int.compare_eq_gt]
  | less => simp [holds, Between, Int.compare_eq_lt]
  | greaterEqual => simp [holds, Between, Int.compare_ne_lt]
  | lessEqual => simp [holds, Between, Int.compare_ne_gt]

end Relation

namespace FixedInt

theorem nonneg_of_unsigned {n : FixedInt} (unsigned : n.kind.signed = false) : 0 ≤ n.val := by
  have least : n.kind.least ≤ n.val := n.inRange.1
  rwa [IntKind.least, unsigned] at least

theorem le_of_signed {n : FixedInt} (signed : n.kind.signed = true) :
    n.val ≤ IntKind.greatest .i64 := by
  have greatest : n.val ≤ n.kind.greatest := n.inRange.2
  have widest : n.kind.greatest ≤ IntKind.greatest .i64 := by
    cases kind : n.kind <;> simp [kind, IntKind.signed] at signed <;> decide
  exact Int.le_trans greatest widest

end FixedInt

namespace Value

/-- The value resolves to an integer, of whatever kind. -/
def IsInteger (v : Value) : Prop := ∃ n, v.resolved = .int n

/-- Widening an integer does not change it. -/
theorem exists_numeric_int (n : FixedInt) :
    ∃ p, (Value.int n).numeric? = some p ∧ p.int? = some n.val := by
  refine ⟨_, rfl, ?_⟩
  cases sign : n.kind.signed with
  | true => rfl
  | false =>
    have same : ((n.val.toNat : Nat) : Int) = n.val :=
      Int.toNat_of_nonneg (FixedInt.nonneg_of_unsigned sign)
    exact congrArg some same

theorem compareResolved_int (m n : FixedInt) (r : Relation) :
    (Value.int m).compareResolved (.int n) r = .ok (decide (r.Between m.val n.val)) := by
  obtain ⟨p, left, left_int⟩ := exists_numeric_int m
  obtain ⟨q, right, right_int⟩ := exists_numeric_int n
  rw [compareResolved_numbers left right, Numeric.order_of_int left_int right_int, r.holds_compare]

/-- Two values that resolve to integers stand in just the relations of these numbers. So a negative
one is below all unsigned ones, and one that no signed kind holds is above all signed ones. -/
theorem compare_integers_exact {lhs rhs : Value} {m n : FixedInt} (left : lhs.resolved = .int m)
    (right : rhs.resolved = .int n) :
    (∀ r, r ≠ .unset → lhs.compare rhs r = .ok (decide (r.Between m.val n.val))) ∧
    (m.val < 0 → n.kind.signed = false → lhs.compare rhs .less = .ok true) ∧
    (IntKind.greatest .i64 < m.val → n.kind.signed = true → lhs.compare rhs .greater = .ok true) := by
  have exact_relation : ∀ r, r ≠ .unset →
      lhs.compare rhs r = .ok (decide (r.Between m.val n.val)) := by
    intro r set
    rw [compare, if_neg set, left, right, compareResolved_int]
  refine ⟨exact_relation, fun negative unsigned => ?_, fun beyond signed => ?_⟩
  · have less : m.val < n.val := Int.lt_of_lt_of_le negative (n.nonneg_of_unsigned unsigned)
    rw [exact_relation .less nofun]
    exact congrArg Except.ok (decide_eq_true less)
  · have greater : m.val > n.val := Int.lt_of_le_of_lt (n.le_of_signed signed) beyond
    rw [exact_relation .greater nofun]
    exact congrArg Except.ok (decide_eq_true greater)

/-- As words of 64 bits, the two integers would be the same. -/
theorem compare_integers_exact_same_word :
    let minusOne : FixedInt := ⟨.i8, -1, by decide⟩
    let greatest : FixedInt := ⟨.u64, 18446744073709551615, by decide⟩
    let lhs : Value := .ref (.ref (.int minusOne))
    let rhs : Value := .ref (.int greatest)
    (lhs.resolved = .int minusOne ∧ rhs.resolved = .int greatest ∧ minusOne.val < 0 ∧
      greatest.kind.signed = false ∧ IntKind.greatest .i64 < greatest.val ∧
      minusOne.kind.signed = true) ∧
    lhs.compare rhs .equal = .ok false ∧ lhs.compare rhs .less = .ok true ∧
      rhs.compare lhs .greater = .ok true := by
  intro minusOne greatest lhs rhs
  have left : lhs.resolved = .int minusOne := rfl
  have right : rhs.resolved = .int greatest := rfl
  obtain ⟨exact_relation, below, -⟩ := compare_integers_exact left right
  obtain ⟨-, -, above⟩ := compare_integers_exact right left
  exact ⟨⟨left, right, by decide, rfl, by decide, rfl⟩, exact_relation .equal nofun,
    below (by decide) rfl, above (by decide) rfl⟩

end Value

end RulePipeline
