import RulePipeline.Condition
import RulePipeline.Proofs.Except
import RulePipeline.Proofs.Relation.Numbers

/-! Relations and their negations. Both fail for the same reason, and otherwise one of them holds;
only where an order is asked of numbers that have none, neither does. -/
namespace RulePipeline

namespace Relation

variable {r : Relation}

/-- Whether it takes an order to tell if the relation holds. -/
def asksOrder : Relation → Bool
  | .greater | .less | .greaterEqual | .lessEqual => true
  | .unset | .equal | .notEqual => false

theorem negate_ne_unset (r : Relation) (set : r ≠ .unset) : r.negate ≠ .unset := by
  cases r with
  | unset => exact absurd rfl set
  | _ => exact nofun

theorem ne_unset_of_asksOrder (asks : r.asksOrder) : r ≠ .unset := by
  rintro rfl
  cases asks

theorem holds_negate (set : r ≠ .unset) (o : Ordering) :
    r.negate.holds (some o) = !r.holds (some o) := by
  cases r with
  | unset => exact absurd rfl set
  | _ => cases o <;> rfl

theorem holds_none (order : r.asksOrder) : r.holds none = false := by
  cases r with
  | unset | equal | notEqual => cases order
  | _ => rfl

theorem negate_asksOrder (r : Relation) : r.negate.asksOrder = r.asksOrder := by
  cases r <;> rfl

theorem holds_negate_none (set : r ≠ .unset) (equality : ¬ r.asksOrder) :
    r.negate.holds none = !r.holds none := by
  cases r with
  | unset => exact absurd rfl set
  | equal | notEqual => rfl
  | _ => exact absurd rfl equality

end Relation

/-- The error that the negated relation has in place of this one. -/
def CompareError.negate : CompareError → CompareError
  | .unsupported r kind => .unsupported r.negate kind
  | e => e

/-- The error that a comparison by the negated relation has in place of this one. -/
def ConditionError.negate : ConditionError → ConditionError
  | .comparison e => .comparison e.negate
  | e => e

/-- What the negated relation gives where this is the result, unless the operands lack an order
that is asked of them. -/
def negated {ε : Type} (rename : ε → ε) : Except ε Bool → Except ε Bool
  | .error e => .error (rename e)
  | .ok holds => .ok !holds

theorem Relation.onEquality_negate (r : Relation) (kind : Kind) (same : Bool) :
    r.negate.onEquality kind same = negated CompareError.negate (r.onEquality kind same) := by
  cases r <;> simp [negate, onEquality, negated, CompareError.negate]

namespace Value

variable {lhs rhs : Value} {r : Relation}

theorem compareAlike_negate (set : r ≠ .unset) :
    lhs.compareAlike rhs r.negate = negated CompareError.negate (lhs.compareAlike rhs r) := by
  unfold compareAlike
  split
  case h_1 s t =>
    rw [Relation.holds_negate set]
    rfl
  case h_2 s _ t _ =>
    split
    · exact r.onEquality_negate _ _
    · rfl
  case h_3 a b =>
    split
    · exact r.onEquality_negate _ _
    · rfl
  case h_7 => rfl
  all_goals exact r.onEquality_negate _ _

theorem compareResolved_negate (set : r ≠ .unset)
    (ordered : ∀ p q, lhs.numeric? = some p → rhs.numeric? = some q → p.order q = none →
      ¬ r.asksOrder) :
    lhs.compareResolved rhs r.negate = negated CompareError.negate (lhs.compareResolved rhs r) := by
  unfold compareResolved
  split
  · exact r.onEquality_negate _ _
  · split
    · rename_i p q left right
      cases order : p.order q with
      | some o => rw [Relation.holds_negate set, negated]
      | none =>
        have equality : ¬ r.asksOrder := ordered p q left right order
        rw [Relation.holds_negate_none set equality, negated]
    · exact compareAlike_negate set

/-- Where an order is asked of numbers that have none, the negated relation does not hold either;
in all other cases it gives the opposite, or the same error. -/
theorem compare_negate (set : r ≠ .unset) (ordered : ¬ (r.asksOrder ∧ Unordered lhs rhs)) :
    lhs.compare rhs r.negate = negated CompareError.negate (lhs.compare rhs r) := by
  have negate_set : r.negate ≠ .unset := r.negate_ne_unset set
  rw [compare, if_neg negate_set, compare, if_neg set]
  apply compareResolved_negate set
  intro p q left right unordered asks
  exact ordered ⟨asks, (unordered_iff left right).mpr unordered⟩

theorem compare_numbers {p q : Numeric} (left : lhs.resolved.numeric? = some p)
    (right : rhs.resolved.numeric? = some q) (set : r ≠ .unset) :
    lhs.compare rhs r = .ok (r.holds (p.order q)) := by
  rw [compare, if_neg set, compareResolved_numbers left right]

theorem compare_unordered (asks : r.asksOrder) (unordered : Unordered lhs rhs) :
    lhs.compare rhs r = .ok false := by
  obtain ⟨p, left⟩ := Option.isSome_iff_exists.mp unordered.1
  obtain ⟨q, right⟩ := Option.isSome_iff_exists.mp unordered.2.1
  have no_order : p.order q = none := (unordered_iff left right).mp unordered
  rw [compare_numbers left right (Relation.ne_unset_of_asksOrder asks), no_order,
    Relation.holds_none asks]

end Value

/-- Two results that are errors of the same sort, or truth values of which the second is what `f`
makes of the first. Where the exception holds, and only there, it is not. -/
structure Corresponds {ε : Type} (rename : ε → ε) (f : Bool → Bool) (exception : Prop)
    (x y : Except ε Bool) : Prop where
  fails : (∃ e, x = .error e) ↔ ∃ e, y = .error e
  error : ∀ e, x = .error e → y = .error (rename e)
  holds : ∀ a b, x = .ok a → y = .ok b → (b = f a ↔ ¬ exception)

namespace Corresponds

variable {ε : Type} {rename : ε → ε} {exception : Prop} {x y : Except ε Bool}

theorem of_negated (ordinary : ¬ exception → y = negated rename x)
    (neither : exception → x = .ok false ∧ y = .ok false) :
    Corresponds rename not exception x y := by
  by_cases exceptional : exception
  · obtain ⟨rfl, rfl⟩ := neither exceptional
    constructor
    · simp
    · simp
    · intro a b left right
      cases left
      cases right
      simp [exceptional]
  · obtain rfl := ordinary exceptional
    constructor
    · cases x <;> simp [negated]
    · rintro e rfl
      rfl
    · rintro a b rfl right
      cases right
      simp [exceptional]

theorem not (opposite : Corresponds rename not exception x y) :
    Corresponds rename id exception (do return !(← x)) y where
  fails := by
    simp only [bind_pure_eq_error]
    exact opposite.fails
  error e failed := opposite.error e (bind_pure_eq_error.mp failed)
  holds a b left right := by
    obtain ⟨c, direct, rfl⟩ := bind_pure_eq_ok.mp left
    exact opposite.holds c b direct right

end Corresponds

namespace Condition

variable {context : Context} {side : Side} {lhs rhs : Option Term} {r : Relation}

/-- Both sides have values, and these are numbers without an order. -/
def Unordered (context : Context) (lhs rhs : Option Term) : Prop :=
  ∃ v w, evalSide context .left lhs = .ok v ∧ evalSide context .right rhs = .ok w ∧ v.Unordered w

theorem evalSide_negate {t : Option Term} {e : ConditionError}
    (failed : evalSide context side t = .error e) : e.negate = e := by
  cases t with
  | none =>
    cases failed
    rfl
  | some t =>
    obtain ⟨cause, -, rfl⟩ := mapError_eq_error.mp failed
    rfl

theorem evalCompare_of_values {v w : Value} (set : r ≠ .unset)
    (left : evalSide context .left lhs = .ok v) (right : evalSide context .right rhs = .ok w) :
    evalCompare context lhs r rhs = (v.compare w r).mapError .comparison := by
  rw [evalCompare, if_neg set, left, right]
  rfl

theorem evalCompare_negate (set : r ≠ .unset)
    (ordered : ¬ (r.asksOrder ∧ Unordered context lhs rhs)) :
    evalCompare context lhs r.negate rhs =
      negated ConditionError.negate (evalCompare context lhs r rhs) := by
  have negate_set : r.negate ≠ .unset := r.negate_ne_unset set
  cases left : evalSide context .left lhs with
  | error e =>
    rw [evalCompare, if_neg negate_set, evalCompare, if_neg set, left]
    exact congrArg Except.error (evalSide_negate left).symm
  | ok v =>
    cases right : evalSide context .right rhs with
    | error e =>
      rw [evalCompare, if_neg negate_set, evalCompare, if_neg set, left, right]
      exact congrArg Except.error (evalSide_negate right).symm
    | ok w =>
      have comparable : ¬ (r.asksOrder ∧ v.Unordered w) := fun ⟨asks, unordered⟩ =>
        ordered ⟨asks, v, w, left, right, unordered⟩
      rw [evalCompare_of_values negate_set left right, evalCompare_of_values set left right,
        Value.compare_negate set comparable]
      cases v.compare w r <;> rfl

theorem evalCompare_unordered (asks : r.asksOrder) (unordered : Unordered context lhs rhs) :
    evalCompare context lhs r rhs = .ok false := by
  obtain ⟨v, w, left, right, without⟩ := unordered
  rw [evalCompare_of_values (Relation.ne_unset_of_asksOrder asks) left right,
    Value.compare_unordered asks without]
  rfl

end Condition

/-- A relation and its negation fail on the same operands, with errors that differ only in the
relation they name, and are otherwise opposite. The exceptions are just the four relations that ask
for an order, on numbers with a NaN among them: there, neither holds. A condition by the negated
relation has to the negation of the condition the same relation. -/
theorem negated_relations :
    (∀ (lhs rhs : Value) (r : Relation), r ≠ .unset →
      Corresponds CompareError.negate not (r.asksOrder ∧ lhs.Unordered rhs)
        (lhs.compare rhs r) (lhs.compare rhs r.negate) ∧
      (r.asksOrder ∧ lhs.Unordered rhs →
        lhs.compare rhs r = .ok false ∧ lhs.compare rhs r.negate = .ok false)) ∧
    ∀ (context : Context) (lhs rhs : Option Term) (r : Relation), r ≠ .unset →
      let exception := r.asksOrder ∧ Condition.Unordered context lhs rhs
      Corresponds ConditionError.negate id exception
        ((Condition.not (.compare lhs r rhs)).eval context)
        ((Condition.compare lhs r.negate rhs).eval context) ∧
      (exception → (Condition.not (.compare lhs r rhs)).eval context = .ok true ∧
        (Condition.compare lhs r.negate rhs).eval context = .ok false) := by
  constructor
  · intro lhs rhs r set
    have neither : r.asksOrder ∧ lhs.Unordered rhs →
        lhs.compare rhs r = .ok false ∧ lhs.compare rhs r.negate = .ok false := by
      rintro ⟨asks, unordered⟩
      have negate_asks : r.negate.asksOrder := r.negate_asksOrder ▸ asks
      exact ⟨Value.compare_unordered asks unordered,
        Value.compare_unordered negate_asks unordered⟩
    exact ⟨.of_negated (Value.compare_negate set) neither, neither⟩
  · intro context lhs rhs r set exception
    have neither : exception → Condition.evalCompare context lhs r rhs = .ok false ∧
        Condition.evalCompare context lhs r.negate rhs = .ok false := by
      rintro ⟨asks, unordered⟩
      have negate_asks : r.negate.asksOrder := r.negate_asksOrder ▸ asks
      exact ⟨Condition.evalCompare_unordered asks unordered,
        Condition.evalCompare_unordered negate_asks unordered⟩
    simp only [Condition.eval]
    refine ⟨(Corresponds.of_negated (Condition.evalCompare_negate set) neither).not, ?_⟩
    intro exceptional
    obtain ⟨direct, opposite⟩ := neither exceptional
    rw [direct]
    exact ⟨rfl, opposite⟩

/-- A NaN of single width behind a reference, and an integer; and two lists, which have no order. -/
theorem negated_relations_nan :
    let nan : Value := .ref (.f32 .nan)
    let one : Value := .int ⟨.u8, 1, by decide⟩
    let lists (r : Relation) : Except CompareError Bool := (Value.list [nan]).compare (.list [one]) r
    let context : Context := .ofList [("x", nan)]
    let x : Option Term := some (.read "x")
    let y : Option Term := some (.literal one)
    (Relation.less ≠ .unset ∧ nan.Unordered one ∧ Condition.Unordered context x y ∧
      lists .less = .error (.unsupported .less .list)) ∧
    (nan.compare one .less = .ok false ∧ nan.compare one .greaterEqual = .ok false) ∧
    ((Condition.not (.compare x .less y)).eval context = .ok true ∧
      (Condition.compare x .greaterEqual y).eval context = .ok false) ∧
    lists .greaterEqual = .error (.unsupported .greaterEqual .list) := by
  intro nan one lists context x y
  have set : Relation.less ≠ .unset := nofun
  have unordered : nan.Unordered one := ⟨rfl, rfl, .inl rfl⟩
  have unordered_terms : Condition.Unordered context x y := ⟨nan, one, rfl, rfl, unordered⟩
  have failed : lists .less = .error (.unsupported .less .list) := rfl
  obtain ⟨direct, conditions⟩ := negated_relations
  exact ⟨⟨set, unordered, unordered_terms, failed⟩, (direct nan one .less set).2 ⟨rfl, unordered⟩,
    (conditions context x y .less set).2 ⟨rfl, unordered_terms⟩,
    (direct _ _ .less set).1.error _ failed⟩

end RulePipeline
