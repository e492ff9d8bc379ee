import RulePipeline.Proofs.Relation.Exchange

/-! Values compared for equality. Numbers are equal by their order, and all other values by their
structure. A value is equal to itself unless there is a NaN in it, and equality carries over from
one value to the next unless there is a float between them. -/
namespace RulePipeline

namespace Binary

variable {f : Format} {x : Binary f}

theorem order_self (number : ¬ x.isNaN) : x.order x = some .eq := by
  simp [order_eq_iff, equal_self, number]

end Binary

namespace Relation

theorem equal_ne_unset : Relation.equal ≠ .unset := nofun

theorem holds_equal_iff {o : Option Ordering} :
    Relation.equal.holds o = true ↔ o = some .eq := by
  cases o with
  | none => simp [holds]
  | some o => cases o <;> simp [holds]

end Relation

namespace Numeric

variable {p q r : Numeric}

theorem toFloat_of_int {n : Int} (integer : p.int? = some n) : p.toFloat = .ofInt n := by
  cases p with
  | float x => cases integer
  | _ =>
    cases integer
    rfl

theorem order_self (number : ¬ p.isNaN) : p.order p = some .eq := by
  cases integer : p.int? with
  | none =>
    rw [order_of_float (.inl integer)]
    exact Binary.order_self (isNaN_toFloat p ▸ number)
  | some n => rw [order_of_int integer integer, Std.compare_self]

theorem order_toFloat (same : p.order q = some .eq) : p.toFloat.order q.toFloat = some .eq := by
  cases left : p.int? with
  | none => rwa [order_of_float (.inl left)] at same
  | some m =>
    cases right : q.int? with
    | none => rwa [order_of_float (.inr right)] at same
    | some n =>
      rw [order_of_int left right, Option.some.injEq, Std.compare_eq_iff_eq] at same
      have number : ¬ q.toFloat.isNaN := isNaN_toFloat q ▸ not_isNaN_of_int right
      rw [toFloat_of_int left, same, ← toFloat_of_int right, Binary.order_self number]

/-- Two integers that are equal to a third one are equal. A double may be equal to several integers,
but each of them is equal to only one double. -/
theorem order_trans {n : Int} (middle : q.int? = some n) (first : p.order q = some .eq)
    (second : q.order r = some .eq) : p.order r = some .eq := by
  have floats : p.toFloat.order r.toFloat = some .eq :=
    Binary.order_eq_iff.mpr <| Binary.equal_trans
      (Binary.order_eq_iff.mp (order_toFloat first)) (Binary.order_eq_iff.mp (order_toFloat second))
  cases left : p.int? with
  | none => rw [order_of_float (.inl left), floats]
  | some m =>
    cases right : r.int? with
    | none => rw [order_of_float (.inr right), floats]
    | some k =>
      rw [order_of_int left middle, Option.some.injEq, Std.compare_eq_iff_eq] at first
      rw [order_of_int middle right, Option.some.injEq, Std.compare_eq_iff_eq] at second
      rw [order_of_int left right, first, second, Std.compare_self]

end Numeric

namespace Value

variable {u v w : Value}

theorem hasNaN_resolved (v : Value) : v.resolved.hasNaN = v.hasNaN := by
  induction v using Value.resolved.induct with
  | case1 target ih => exact ih
  | case2 v other =>
    cases v with
    | ref target => exact absurd rfl (other target)
    | _ => rfl

theorem hasNaN_of_numeric {p : Numeric} (number : v.numeric? = some p) : v.hasNaN = p.isNaN := by
  cases v with
  | int n =>
    cases number
    cases n.kind.signed <;> rfl
  | f32 x =>
    cases number
    exact (Binary.isNaN_cast .double x).symm
  | f64 x =>
    cases number
    rfl
  | _ => cases number

/-- What is equal to a value that is no number is none either. -/
theorem numeric?_of_equal (same : v.equal w) (other : v.numeric? = none) : w.numeric? = none := by
  cases v with
  | int _ | f32 _ | f64 _ => cases other
  | _ => cases w <;> first | rfl | simp [equal] at same

theorem compareResolved_equal_iff (other : v.numeric? = none) (direct : ∀ t, v ≠ .ref t) :
    v.compareResolved w .equal = .ok true ↔ v.equal w := by
  cases v with
  | int _ | f32 _ | f64 _ => cases other
  | ref t => exact absurd rfl (direct t)
  | record s fields =>
    cases w with
    | record t others =>
      by_cases same : s = t <;>
        simp [compareResolved, compareAlike, Relation.onEquality, equal, isNil, numeric?, same]
    | _ => simp [compareResolved, compareAlike, Relation.onEquality, equal, isNil, numeric?]
  | host a =>
    cases w with
    | host b =>
      by_cases same : a.typeName = b.typeName
      · simp [compareResolved, compareAlike, Relation.onEquality, equal, isNil, numeric?, same]
      · have different : a ≠ b := fun eq => same (congrArg HostObject.typeName eq)
        simp [compareResolved, compareAlike, equal, isNil, numeric?, same, different]
    | _ => simp [compareResolved, compareAlike, Relation.onEquality, equal, isNil, numeric?]
  | _ =>
    cases w <;> simp [compareResolved, compareAlike, Relation.onEquality, Relation.holds, equal,
      isNil, numeric?]

theorem compare_equal (v w : Value) :
    v.compare w .equal = v.resolved.compareResolved w.resolved .equal := by
  rw [compare, if_neg Relation.equal_ne_unset]

/-- Two values compare as equal if they are numbers of the same place in the order, or else of
equal structure. -/
theorem compare_equal_iff : v.compare w .equal = .ok true ↔
    (∃ p q, v.resolved.numeric? = some p ∧ w.resolved.numeric? = some q ∧ p.order q = some .eq) ∨
      v.resolved.numeric? = none ∧ v.resolved.equal w.resolved := by
  cases left : v.resolved.numeric? with
  | none =>
    rw [compare_equal, compareResolved_equal_iff left v.resolved_ne_ref]
    simp
  | some p =>
    cases right : w.resolved.numeric? with
    | some q =>
      rw [compare_numbers left right Relation.equal_ne_unset, Except.ok.injEq,
        Relation.holds_equal_iff]
      simp
    | none =>
      -- In exchanged places, the value in front is the one that is no number.
      have unequal : ¬ w.compare v .equal = .ok true := by
        rw [compare_equal, compareResolved_equal_iff right w.resolved_ne_ref]
        intro same
        rw [numeric?_of_equal same right] at left
        cases left
      have exchanged : v.compare w .equal = (w.compare v .equal).mapError CompareError.converse :=
        compare_converse w v .equal
      simp [exchanged, mapError_eq_ok, unequal]

theorem compareResolved_self (other : v.numeric? = none) (direct : ∀ t, v ≠ .ref t) :
    v.compareResolved v .equal = .ok (v.equal v) := by
  cases v with
  | int _ | f32 _ | f64 _ => cases other
  | ref t => exact absurd rfl (direct t)
  | _ => simp [compareResolved, compareAlike, Relation.onEquality, Relation.holds, equal, isNil,
      numeric?]

theorem compare_self (v : Value) : v.compare v .equal = .ok (!v.hasNaN) := by
  rw [← v.hasNaN_resolved]
  cases number : v.resolved.numeric? with
  | none =>
    rw [compare_equal, compareResolved_self number v.resolved_ne_ref, equal_self]
  | some p =>
    rw [compare_numbers number number Relation.equal_ne_unset, hasNaN_of_numeric number]
    cases nan : p.isNaN with
    | true =>
      have unordered : p.order p = none := Numeric.order_eq_none.mpr (.inl nan)
      rw [unordered]
      rfl
    | false =>
      rw [Numeric.order_self (Bool.eq_false_iff.mp nan)]
      rfl

/-- The value resolves to a floating point number. -/
def isFloat (v : Value) : Bool :=
  match v.resolved with
  | .f32 _ | .f64 _ => true
  | _ => false

theorem exists_int_of_not_isFloat {p : Numeric} (number : v.resolved.numeric? = some p)
    (integer : ¬ v.isFloat) : ∃ n, p.int? = some n := by
  unfold isFloat at integer
  cases resolved : v.resolved with
  | int n =>
    rw [resolved] at number
    cases number
    cases n.kind.signed <;> exact ⟨_, rfl⟩
  | f32 x | f64 x => simp [resolved] at integer
  | _ =>
    rw [resolved] at number
    cases number

theorem compare_trans (middle : ¬ v.isFloat) (first : u.compare v .equal = .ok true)
    (second : v.compare w .equal = .ok true) : u.compare w .equal = .ok true := by
  rw [compare_equal_iff] at first second ⊢
  rcases first with ⟨p, q, left, between, first⟩ | ⟨left, first⟩
  · obtain ⟨n, integer⟩ := exists_int_of_not_isFloat between middle
    rcases second with ⟨q', r, between', right, second⟩ | ⟨between', -⟩
    · cases between.symm.trans between'
      exact .inl ⟨p, r, left, right, Numeric.order_trans integer first second⟩
    · cases between.symm.trans between'
  · have between : v.resolved.numeric? = none := numeric?_of_equal first left
    rcases second with ⟨q, r, between', -, -⟩ | ⟨-, second⟩
    · cases between.symm.trans between'
    · exact .inr ⟨left, equal_trans _ _ _ first second⟩

/-- A value is equal to itself just if there is no NaN in it, and different from itself just if
there is one. Two values that are equal to a third one are equal, whatever the three are, as long
as the third one is no float. -/
theorem equal_reflexive_transitive :
    (∀ v : Value, v.compare v .equal = .ok (!v.hasNaN) ∧ v.compare v .notEqual = .ok v.hasNaN) ∧
    ∀ u v w : Value, ¬ v.isFloat → u.compare v .equal = .ok true → v.compare w .equal = .ok true →
      u.compare w .equal = .ok true := by
  refine ⟨fun v => ⟨v.compare_self, ?_⟩, fun u v w => compare_trans⟩
  have opposite : v.compare v .notEqual = negated CompareError.negate (v.compare v .equal) :=
    compare_negate Relation.equal_ne_unset nofun
  rw [opposite, compare_self, negated, Bool.not_not]

/-- Integers of three kinds behind different references, and a record with a NaN in a hidden field.
A double that two integers are rounded to is equal to both of them, and they are not equal. -/
theorem equal_reflexive_transitive_mixed :
    let narrow : Value := .ref (.int ⟨.i8, 5, by decide⟩)
    let unsigned : Value := .ref (.ref (.int ⟨.u64, 5, by decide⟩))
    let wide : Value := .int ⟨.i64, 5, by decide⟩
    let reading : Value := .record "Reading" [⟨"raw", .ref (.f32 .nan), false⟩]
    let odd : Value := .int ⟨.i64, 9007199254740993, by decide⟩
    let double : Value := .f64 (.ofInt 9007199254740992)
    let even : Value := .int ⟨.i64, 9007199254740992, by decide⟩
    (¬ unsigned.isFloat ∧ narrow.compare unsigned .equal = .ok true ∧
      unsigned.compare wide .equal = .ok true) ∧
    narrow.compare wide .equal = .ok true ∧
    (reading.compare reading .equal = .ok false ∧ reading.compare reading .notEqual = .ok true) ∧
    (double.isFloat ∧ odd.compare double .equal = .ok true ∧ double.compare even .equal = .ok true ∧
      odd.compare even .equal = .ok false) := by
  intro narrow unsigned wide reading odd double even
  have integer : ¬ unsigned.isFloat := nofun
  have first : narrow.compare unsigned .equal = .ok true := rfl
  have second : unsigned.compare wide .equal = .ok true := rfl
  have below : Numeric.order (.signed 9007199254740993) (.float (.ofInt 9007199254740992)) =
      some .eq := by decide +kernel
  have above : Numeric.order (.float (.ofInt 9007199254740992)) (.signed 9007199254740992) =
      some .eq := by decide +kernel
  obtain ⟨reflexive, transitive⟩ := equal_reflexive_transitive
  refine ⟨⟨integer, first, second⟩, transitive _ _ _ integer first second, reflexive reading, rfl,
    ?_, ?_, rfl⟩
  · exact compare_equal_iff.mpr (.inl ⟨_, _, rfl, rfl, below⟩)
  · exact compare_equal_iff.mpr (.inl ⟨_, _, rfl, rfl, above⟩)

end Value

end RulePipeline
