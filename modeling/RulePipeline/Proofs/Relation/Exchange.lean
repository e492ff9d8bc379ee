import RulePipeline.Proofs.Relation.Negation
import RulePipeline.Proofs.Value.Equality

/-! Comparisons with the operands in exchanged places. The converse relation gives the same answer,
or the same error with its operands exchanged. Of two values that have an order, one is less than
the other, or both are equal, and never two of these. -/
namespace RulePipeline

/-- The error of the comparison with the operands in exchanged places. -/
def CompareError.converse : CompareError → CompareError
  | .unsetRelation => .unsetRelation
  | .incompatible lhs rhs => .incompatible rhs lhs
  | .unsupported r kind => .unsupported r.converse kind

namespace Relation

variable {r : Relation}

theorem converse_eq_unset : r.converse = .unset ↔ r = .unset := by
  cases r <;> simp [converse]

theorem holds_converse (r : Relation) (o : Option Ordering) :
    r.converse.holds (o.map Ordering.swap) = r.holds o := by
  cases o with
  | none => cases r <;> rfl
  | some o => cases r <;> cases o <;> rfl

theorem onEquality_converse (r : Relation) (kind : Kind) (same : Bool) :
    r.converse.onEquality kind same = (r.onEquality kind same).mapError CompareError.converse := by
  cases r <;> rfl

theorem onEquality_of_asksOrder (asks : r.asksOrder) (kind : Kind) (same : Bool) :
    r.onEquality kind same = .error (.unsupported r kind) := by
  cases r with
  | unset | equal | notEqual => cases asks
  | _ => rfl

/-- The relation that holds of operands in just this order. -/
def ofOrdering : Ordering → Relation
  | .lt => .less
  | .eq => .equal
  | .gt => .greater

theorem ofOrdering_ne_unset (o : Ordering) : ofOrdering o ≠ .unset := by
  cases o <;> exact nofun

theorem holds_ofOrdering (o p : Ordering) : (ofOrdering o).holds (some p) = decide (o = p) := by
  cases o <;> cases p <;> rfl

end Relation

namespace Numeric

theorem order_swap (p q : Numeric) : q.order p = (p.order q).map Ordering.swap := by
  cases left : p.int? with
  | none => rw [order_of_float (.inr left), order_of_float (.inl left), Binary.order_swap]
  | some m =>
    cases right : q.int? with
    | none => rw [order_of_float (.inl right), order_of_float (.inr right), Binary.order_swap]
    | some n =>
      rw [order_of_int left right, order_of_int right left, Option.map_some,
        ← Std.OrientedOrd.eq_swap]

end Numeric

namespace Value

variable {lhs rhs : Value} {r : Relation} {b : Bool}

theorem compareAlike_converse (lhs rhs : Value) (r : Relation) :
    rhs.compareAlike lhs r.converse =
      (lhs.compareAlike rhs r).mapError CompareError.converse := by
  cases lhs with
  | string s =>
    cases rhs with
    | string t =>
      have reversed : some (Ord.compare t s) = (some (Ord.compare s t)).map Ordering.swap :=
        congrArg some Std.OrientedOrd.eq_swap
      rw [compareAlike, compareAlike, reversed, Relation.holds_converse, mapError_ok]
    | _ => rfl
  | record s fields =>
    cases rhs with
    | record t others =>
      by_cases same : s = t
      · subst same
        simp only [compareAlike, if_true]
        rw [equal_comm, Relation.onEquality_converse]
      · simp only [compareAlike, same, Ne.symm same, if_false]
        rfl
    | _ => rfl
  | host a =>
    cases rhs with
    | host b =>
      by_cases same : a.typeName = b.typeName
      · simp only [compareAlike, same, if_true]
        rw [equal_comm, Relation.onEquality_converse]
      · simp only [compareAlike, same, Ne.symm same, if_false]
        rfl
    | _ => rfl
  | bool a =>
    cases rhs with
    | bool b => rw [compareAlike, compareAlike, equal_comm, Relation.onEquality_converse]
    | _ => rfl
  | list items =>
    cases rhs with
    | list others => rw [compareAlike, compareAlike, equal_comm, Relation.onEquality_converse]
    | _ => rfl
  | map entries =>
    cases rhs with
    | map others => rw [compareAlike, compareAlike, equal_comm, Relation.onEquality_converse]
    | _ => rfl
  | _ => cases rhs <;> rfl

theorem compareResolved_converse (lhs rhs : Value) (r : Relation) :
    rhs.compareResolved lhs r.converse =
      (lhs.compareResolved rhs r).mapError CompareError.converse := by
  rw [compareResolved, compareResolved, Bool.or_comm rhs.isNil, Bool.and_comm rhs.isNil]
  split
  · exact r.onEquality_converse _ _
  · cases left : lhs.numeric? with
    | none =>
      cases rhs.numeric? <;> exact compareAlike_converse lhs rhs r
    | some p =>
      cases right : rhs.numeric? with
      | none => exact compareAlike_converse lhs rhs r
      | some q =>
        simp only
        rw [p.order_swap q, Relation.holds_converse, mapError_ok]

theorem compare_converse (lhs rhs : Value) (r : Relation) :
    rhs.compare lhs r.converse = (lhs.compare rhs r).mapError CompareError.converse := by
  by_cases set : r = .unset
  · subst set
    rfl
  · rw [compare, if_neg (mt Relation.converse_eq_unset.mp set), compare, if_neg set,
      compareResolved_converse]

theorem strings_of_compareAlike (asks : r.asksOrder) (result : lhs.compareAlike rhs r = .ok b) :
    ∃ s t, lhs = .string s ∧ rhs = .string t := by
  unfold compareAlike at result
  split at result
  case h_1 s t => exact ⟨s, t, rfl, rfl⟩
  all_goals
    simp only [Relation.onEquality_of_asksOrder asks] at result
    first
      | cases result
      | (split at result <;> cases result)

/-- Only numbers and strings are compared by a relation that asks for an order. -/
theorem numbers_or_strings_of_compare (asks : r.asksOrder) (result : lhs.compare rhs r = .ok b) :
    (∃ p q, lhs.resolved.numeric? = some p ∧ rhs.resolved.numeric? = some q) ∨
      ∃ s t, lhs.resolved = .string s ∧ rhs.resolved = .string t := by
  rw [compare, if_neg (Relation.ne_unset_of_asksOrder asks), compareResolved] at result
  split at result
  · rw [Relation.onEquality_of_asksOrder asks] at result
    cases result
  · split at result
    · rename_i p q left right
      exact .inl ⟨p, q, left, right⟩
    · exact .inr (strings_of_compareAlike asks result)

theorem compare_strings {s t : String} (left : lhs.resolved = .string s)
    (right : rhs.resolved = .string t) (set : r ≠ .unset) :
    lhs.compare rhs r = .ok (r.holds (some (Ord.compare s t))) := by
  rw [compare, if_neg set, left, right]
  rfl

/-- Where a relation asks for an order, this order decides all the other relations too; it is missing
only where one of two numbers is a NaN. -/
theorem order_of_compare (asks : r.asksOrder) (result : lhs.compare rhs r = .ok b) :
    ∃ o : Option Ordering, (∀ r', r' ≠ .unset → lhs.compare rhs r' = .ok (r'.holds o)) ∧
      (o = none → Unordered lhs rhs) := by
  rcases numbers_or_strings_of_compare asks result with ⟨p, q, left, right⟩ | ⟨s, t, left, right⟩
  · exact ⟨p.order q, fun r' set => compare_numbers left right set, (unordered_iff left right).mpr⟩
  · exact ⟨some (Ord.compare s t), fun r' set => compare_strings left right set, nofun⟩

end Value

/-- Exchanged operands give the same answer to the converse relation, and where there is none, the
same error, with its operands exchanged as well. Two values that some relation compares by their
order, and neither of them a NaN, are in exactly one of the three orders. -/
theorem exchanged_relations :
    (∀ (lhs rhs : Value) (r : Relation),
      rhs.compare lhs r.converse = (lhs.compare rhs r).mapError CompareError.converse) ∧
    ∀ (lhs rhs : Value) (r : Relation) (b : Bool), r.asksOrder → lhs.compare rhs r = .ok b →
      ¬ lhs.isNaN → ¬ rhs.isNaN →
      ∃ o : Ordering, ∀ o', lhs.compare rhs (.ofOrdering o') = .ok (decide (o' = o)) := by
  refine ⟨Value.compare_converse, fun lhs rhs r b asks result left right => ?_⟩
  obtain ⟨order, told, missing⟩ := Value.order_of_compare asks result
  cases order with
  | none =>
    rcases (missing rfl).2.2 with nan | nan
    · exact absurd nan left
    · exact absurd nan right
  | some o =>
    refine ⟨o, fun o' => ?_⟩
    rw [told _ (Relation.ofOrdering_ne_unset o'), Relation.holds_ofOrdering]

/-- The greatest unsigned integer is next to a double that it would be rounded to: neither is less
than the other, so they have to be equal. A list and a string are in no order, and either way the
error names the kinds in the order of the operands. -/
theorem exchanged_relations_rounded :
    let greatest : Value := .ref (.int ⟨.u64, 18446744073709551615, by decide⟩)
    let double : Value := .f64 (.ofInt 18446744073709551616)
    let names : Value := .list [.string "a"]
    let name : Value := .string "a"
    (Relation.greaterEqual.asksOrder ∧ greatest.compare double .greaterEqual = .ok true ∧
      ¬ greatest.isNaN ∧ ¬ double.isNaN) ∧
    (∃ o : Ordering, ∀ o', greatest.compare double (.ofOrdering o') = .ok (decide (o' = o))) ∧
    greatest.compare double .equal = .ok true ∧
    names.compare name .less = .error (.incompatible .list .string) ∧
    name.compare names .greater = .error (.incompatible .string .list) := by
  intro greatest double names name
  have same : Numeric.order (.unsigned 18446744073709551615)
      (.float (.ofInt 18446744073709551616)) = some .eq := by decide +kernel
  have compared (r : Relation) (set : r ≠ .unset) :
      greatest.compare double r = .ok (r.holds (some .eq)) :=
    same ▸ Value.compare_numbers rfl rfl set
  have left : ¬ greatest.isNaN := nofun
  have right : ¬ double.isNaN := nofun
  have failed : names.compare name .less = .error (.incompatible .list .string) := rfl
  obtain ⟨exchanged, ordered⟩ := exchanged_relations
  have result : greatest.compare double .greaterEqual = .ok true := compared _ nofun
  obtain ⟨o, told⟩ := ordered greatest double .greaterEqual true rfl result left right
  refine ⟨⟨rfl, result, left, right⟩, ⟨o, told⟩, compared _ nofun, failed, ?_⟩
  exact (exchanged names name .less).trans (congrArg (Except.mapError _) failed)

end RulePipeline
