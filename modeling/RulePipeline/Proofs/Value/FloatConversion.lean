import RulePipeline.Proofs.Binary.Exact
import RulePipeline.Proofs.Value.Conversion

/-! Integers as floating point numbers. An integer of any kind converts to a double or a single if
it is an integer of the format's bits times a power of two, and then the number is the integer.
Where a cast would round, there is no conversion, also next to the ends of the kinds of 64 bits. -/
namespace RulePipeline

attribute [local instance (high)] instPowNat

/-- The integer is one of so many bits, times a power of two. -/
def FitsBits (bits : Nat) (n : Int) : Prop :=
  ∃ (m : Int) (e : Nat), n = m * 2 ^ e ∧ m.natAbs < 2 ^ bits

namespace Binary

variable {f : Format}

theorem represents_iff {bits : Nat} (precision : f.fracBits + 1 = bits) (i : Int) :
    f.Represents i.natAbs ↔ FitsBits bits i := by
  subst precision
  constructor
  · rintro ⟨s, k, bits, same⟩
    have product : ((s * 2 ^ k : Nat) : Int) = s * 2 ^ k := by
      rw [Int.natCast_mul, Int.natCast_pow]
      rfl
    rcases Int.natAbs_eq i with positive | negative
    · exact ⟨s, k, by rw [positive, same, product], bits⟩
    · exact ⟨-s, k, by rw [negative, same, product, Int.neg_mul], by rwa [Int.natAbs_neg]⟩
  · rintro ⟨m, e, rfl, bits⟩
    exact ⟨m.natAbs, e, bits, by simp [Int.natAbs_mul, Int.natAbs_pow]⟩

theorem double_represents_iff (i : Int) : Format.double.Represents i.natAbs ↔ FitsBits 53 i :=
  represents_iff rfl i

theorem single_represents_iff (i : Int) : Format.single.Represents i.natAbs ↔ FitsBits 24 i :=
  represents_iff rfl i

theorem fitsBits_double {i : Int} (fits : FitsBits 24 i) : FitsBits 53 i :=
  (double_represents_iff i).mp
    (((single_represents_iff i).mpr fits).mono (by decide : Format.single.fracBits ≤ _))

theorem exactValue?_of_fits {bits : Nat} (precision : f.fracBits + 1 = bits) {i : Int}
    (inRange : InRange f i) (fits : FitsBits bits i) :
    (ofInt i : Binary f).exactValue? = some (i : Rat) :=
  (exactValue?_ofInt inRange).mpr ((represents_iff precision i).mpr fits)

/-- The casts of integers of 64 bits are finite in both formats. -/
theorem inRange_of_fixedInt (n : FixedInt) : InRange .double n.val ∧ InRange .single n.val := by
  obtain ⟨low, high⟩ := n.range_of_64_bits
  rw [IntKind.least_i64] at low
  rw [IntKind.greatest_u64] at high
  have size : n.val.natAbs ≤ (18446744073709551616 : Int).natAbs := by omega
  have double : InRange .double 18446744073709551616 := by decide +kernel
  have single : InRange .single 18446744073709551616 := by decide +kernel
  exact ⟨double.mono size, single.mono size⟩

end Binary

theorem Numeric.toFloat?_iff {p : Numeric} {i : Int} {x : Binary64} (integer : p.int? = some i)
    (inRange : Binary.InRange .double i) :
    p.toFloat? = some x ↔ FitsBits 53 i ∧ x = .ofInt i := by
  rw [toFloat?, integer, toFloat_of_int integer, Option.ite_none_right_eq_some, Option.some_inj,
    Binary.truncate_ofInt inRange, Binary.double_represents_iff, eq_comm (a := x)]

namespace ValueType

variable {v t : Value} {n : FixedInt}

theorem toSingle?_iff {i : Int} {y : Binary32} (wide : Binary.InRange .double i)
    (narrow : Binary.InRange .single i) (fits : FitsBits 53 i) :
    toSingle? (.ofInt i) = some y ↔ FitsBits 24 i ∧ y = .ofInt i := by
  have represented := (Binary.double_represents_iff i).mpr fits
  have bits : Binary.Format.single.fracBits ≤ Binary.Format.double.fracBits := by decide
  have scale : Binary.Format.single.scale ≤ Binary.Format.double.scale := by decide +kernel
  have number : (Binary.ofInt i : Binary64).isNaN = false := rfl
  rw [toSingle?, Option.ite_none_right_eq_some, Option.some_inj, number,
    Binary.cast_back_iff bits scale wide narrow represented, Binary.cast_ofInt wide represented,
    Binary.single_represents_iff, eq_comm (a := y)]
  simp

theorem convert_f64_iff (integer : v.resolved = .int n) :
    ValueType.f64.convert v = some t ↔ FitsBits 53 n.val ∧ t = .f64 (.ofInt n.val) := by
  obtain ⟨p, number, same⟩ := Value.exists_numeric_int n
  rw [convert, integer, number, Option.bind_some, Option.map_eq_some_iff]
  simp only [Numeric.toFloat?_iff same (Binary.inRange_of_fixedInt n).1, and_assoc,
    exists_and_left, exists_eq_left, eq_comm (a := t)]

theorem convert_f32_iff (integer : v.resolved = .int n) :
    ValueType.f32.convert v = some t ↔ FitsBits 24 n.val ∧ t = .f32 (.ofInt n.val) := by
  obtain ⟨p, number, same⟩ := Value.exists_numeric_int n
  obtain ⟨wide, narrow⟩ := Binary.inRange_of_fixedInt n
  rw [convert, integer, number, Option.bind_some, Option.map_eq_some_iff]
  constructor
  · rintro ⟨y, converted, rfl⟩
    obtain ⟨x, exact_double, single⟩ := Option.bind_eq_some_iff.mp converted
    obtain ⟨fits, rfl⟩ := (Numeric.toFloat?_iff same wide).mp exact_double
    obtain ⟨fits_single, rfl⟩ := (toSingle?_iff wide narrow fits).mp single
    exact ⟨fits_single, rfl⟩
  · rintro ⟨fits, rfl⟩
    have fits_double := Binary.fitsBits_double fits
    refine ⟨.ofInt n.val, Option.bind_eq_some_iff.mpr ⟨.ofInt n.val, ?_, ?_⟩, rfl⟩
    · exact (Numeric.toFloat?_iff same wide).mpr ⟨fits_double, rfl⟩
    · exact (toSingle?_iff wide narrow fits_double).mpr ⟨fits, rfl⟩

end ValueType

namespace Binary

/-- From half a step of the doubles below it on, all integers are rounded up to the first power of
two beyond a kind of 64 bits. -/
theorem rounded_up {i : Int} {p : Nat} (edge : p ∈ ([63, 64] : List Nat))
    (near : 2 ^ p - 2 ^ (p - 54) ≤ i) (below : i < 2 ^ p) :
    (ofInt i : Binary64).exactValue? = some ((2 ^ p : Int) : Rat) := by
  have ends : ∀ q ∈ ([63, 64] : List Nat), (0 : Int) ≤ 2 ^ q - 2 ^ (q - 54) ∧
      (ofInt (2 ^ q - 2 ^ (q - 54)) : Binary64) = ofInt (2 ^ q) ∧
      (ofInt (2 ^ q) : Binary64).exactValue? = some ((2 ^ q : Int) : Rat) := by
    decide +kernel
  obtain ⟨nonneg, same, power⟩ := ends p edge
  rw [ofInt_between nonneg near (Int.le_of_lt below) same, power]

end Binary

/-- An integer of any kind converts to a double just if it is one of 53 bits times a power of two,
and to a single just if it is one of 24 bits times a power of two. What it becomes has exactly its
value. The integers that a cast rounds up to a power of two beyond the signed or the unsigned kind
of 64 bits convert to neither. -/
theorem integers_to_floats_exact {v : Value} {n : FixedInt} (integer : v.resolved = .int n) :
    (((∃ t, ValueType.f64.convert v = some t) ↔ FitsBits 53 n.val) ∧
      ∀ t, ValueType.f64.convert v = some t →
        ∃ x : Binary64, t = .f64 x ∧ x.exactValue? = some (n.val : Rat)) ∧
    (((∃ t, ValueType.f32.convert v = some t) ↔ FitsBits 24 n.val) ∧
      ∀ t, ValueType.f32.convert v = some t →
        ∃ y : Binary32, t = .f32 y ∧ y.exactValue? = some (n.val : Rat)) ∧
    ∀ p ∈ ([63, 64] : List Nat), 2 ^ p - 2 ^ (p - 54) ≤ n.val → n.val < 2 ^ p →
      (Binary.ofInt n.val : Binary64).exactValue? = some ((2 ^ p : Int) : Rat) ∧
      ValueType.f64.convert v = none ∧ ValueType.f32.convert v = none := by
  obtain ⟨wide, narrow⟩ := Binary.inRange_of_fixedInt n
  refine ⟨⟨?_, fun t converted => ?_⟩, ⟨?_, fun t converted => ?_⟩, fun p edge near below => ?_⟩
  · simp [ValueType.convert_f64_iff integer]
  · obtain ⟨fits, rfl⟩ := (ValueType.convert_f64_iff integer).mp converted
    exact ⟨_, rfl, Binary.exactValue?_of_fits rfl wide fits⟩
  · simp [ValueType.convert_f32_iff integer]
  · obtain ⟨fits, rfl⟩ := (ValueType.convert_f32_iff integer).mp converted
    exact ⟨_, rfl, Binary.exactValue?_of_fits rfl narrow fits⟩
  · have rounded := Binary.rounded_up edge near below
    have refused : ¬ FitsBits 53 n.val := by
      intro fits
      rw [Binary.exactValue?_of_fits rfl wide fits, Option.some_inj, Rat.intCast_inj] at rounded
      omega
    refine ⟨rounded, ?_, ?_⟩
    · exact Option.eq_none_iff_forall_ne_some.mpr fun t converted =>
        refused ((ValueType.convert_f64_iff integer).mp converted).1
    · exact Option.eq_none_iff_forall_ne_some.mpr fun t converted =>
        refused (Binary.fitsBits_double ((ValueType.convert_f32_iff integer).mp converted).1)

/-- The least signed integer is a power of two and becomes a single. The first odd integer of 54
bits does not become a double, and neither does the greatest integer, which would be rounded up. -/
theorem integers_to_floats_exact_edges :
    let least : FixedInt := ⟨.i64, -9223372036854775808, by decide⟩
    let odd : FixedInt := ⟨.i64, 9007199254740993, by decide⟩
    let greatest : FixedInt := ⟨.u64, 18446744073709551615, by decide⟩
    let v : Value := .ref (.int least)
    (v.resolved = .int least ∧ (Value.int odd).resolved = .int odd ∧
      (Value.int greatest).resolved = .int greatest ∧ 64 ∈ ([63, 64] : List Nat) ∧
      2 ^ (64 : Nat) - 2 ^ (10 : Nat) ≤ greatest.val ∧ greatest.val < 2 ^ (64 : Nat)) ∧
    (FitsBits 24 least.val ∧ ∃ y : Binary32, ValueType.f32.convert v = some (.f32 y) ∧
      y.exactValue? = some (-9223372036854775808)) ∧
    (¬ FitsBits 53 odd.val ∧ ValueType.f64.convert (.int odd) = none) ∧
    (Binary.ofInt greatest.val : Binary64).exactValue? = some 18446744073709551616 ∧
    ValueType.f64.convert (.int greatest) = none ∧
    ValueType.f32.convert (.int greatest) = none := by
  intro least odd greatest v
  have fits : FitsBits 24 least.val := ⟨-1, 63, by decide, by decide⟩
  have too_long : ¬ FitsBits 53 odd.val := by
    rintro ⟨m, e, same, bits⟩
    have value : odd.val = 9007199254740993 := rfl
    cases e with
    | zero =>
      rw [Int.pow_zero] at same
      omega
    | succ e =>
      rw [Int.pow_succ, ← Int.mul_assoc] at same
      omega
  have resolved : v.resolved = .int least := rfl
  have resolved_odd : (Value.int odd).resolved = .int odd := rfl
  have resolved_greatest : (Value.int greatest).resolved = .int greatest := rfl
  have near : 2 ^ (64 : Nat) - 2 ^ (10 : Nat) ≤ greatest.val := by decide
  have below : greatest.val < 2 ^ (64 : Nat) := by decide
  obtain ⟨-, ⟨single, single_exact⟩, -⟩ := integers_to_floats_exact resolved
  obtain ⟨⟨double, -⟩, -⟩ := integers_to_floats_exact resolved_odd
  obtain ⟨-, -, edges⟩ := integers_to_floats_exact resolved_greatest
  obtain ⟨t, converted⟩ := single.mpr fits
  obtain ⟨y, rfl, exact_value⟩ := single_exact t converted
  refine ⟨⟨resolved, resolved_odd, resolved_greatest, by decide, near, below⟩,
    ⟨fits, y, converted, exact_value⟩, ⟨too_long, ?_⟩, edges 64 (by decide) near below⟩
  exact Option.eq_none_iff_forall_ne_some.mpr fun t converted =>
    too_long (double.mp ⟨t, converted⟩)

end RulePipeline
