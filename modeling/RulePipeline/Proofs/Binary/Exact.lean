import RulePipeline.Proofs.Binary.Rounding
import RulePipeline.Proofs.Value.Equality

/-! Numbers that rounding leaves as they are. A format has just those numbers of units that are a
significand of its bits times a power of two, and rounds each of them to itself. So an integer is a
floating point number if it is such a product, and then it is the same number in every format that
has it. -/
namespace RulePipeline

attribute [local instance (high)] instPowNat

namespace Binary

variable {f g : Format} {u n den : Nat}

theorem roundDiv_mul (n : Nat) (pos : 0 < den) : roundDiv (n * den) den = n := by
  rw [roundDiv_eq, Nat.mul_mod_left, Nat.mul_div_cancel n pos, if_pos (.inl pos)]

theorem roundDiv_mul_right (n den : Nat) {c : Nat} (pos : 0 < c) :
    roundDiv (n * c) (den * c) = roundDiv n den := by
  have twice : 2 * (n % den * c) = 2 * (n % den) * c := by rw [Nat.mul_assoc]
  rw [roundDiv_eq, roundDiv_eq, Nat.mul_mod_mul_right, Nat.mul_div_mul_right _ _ pos, twice]
  simp only [Nat.mul_lt_mul_right pos, Nat.mul_left_inj (Nat.ne_of_gt pos)]

namespace Format

/-- So many units are a significand of the format's bits, scaled by a power of two. -/
def Represents (f : Format) (u : Nat) : Prop :=
  ∃ s k : Nat, s < 2 ^ (f.fracBits + 1) ∧ u = s * 2 ^ k

theorem Represents.mul (represented : f.Represents u) (c : Nat) : f.Represents (u * 2 ^ c) := by
  obtain ⟨s, k, bits, rfl⟩ := represented
  exact ⟨s, k + c, bits, by rw [Nat.pow_add, Nat.mul_assoc]⟩

theorem Represents.div (represented : f.Represents u) (c : Nat) : f.Represents (u / 2 ^ c) := by
  obtain ⟨s, k, bits, rfl⟩ := represented
  by_cases least : c ≤ k
  · refine ⟨s, k - c, bits, ?_⟩
    rw [Nat.mul_div_assoc s (Nat.pow_dvd_pow 2 least), Nat.pow_div least Nat.two_pos]
  · -- The power of two does not make up for the division, so that less is left than there was.
    refine ⟨s * 2 ^ k / 2 ^ c, 0, Nat.lt_of_le_of_lt ?_ bits, by rw [Nat.pow_zero, Nat.mul_one]⟩
    have smaller : 2 ^ k ≤ 2 ^ c := Nat.pow_le_pow_right Nat.two_pos (by omega)
    exact Nat.div_le_of_le_mul (by rw [Nat.mul_comm]; exact Nat.mul_le_mul_right s smaller)

theorem Represents.mono (wider : g.fracBits ≤ f.fracBits) (represented : g.Represents u) :
    f.Represents u := by
  obtain ⟨s, k, bits, same⟩ := represented
  have more : 2 ^ (g.fracBits + 1) ≤ 2 ^ (f.fracBits + 1) :=
    Nat.pow_le_pow_right Nat.two_pos (by omega)
  exact ⟨s, k, Nat.lt_of_lt_of_le bits more, same⟩

theorem represents_mul_iff (c : Nat) : f.Represents (u * 2 ^ c) ↔ f.Represents u := by
  constructor
  · intro represented
    have quotient := represented.div c
    rwa [Nat.mul_div_cancel u (Nat.two_pow_pos c)] at quotient
  · exact fun represented => represented.mul c

theorem represents_units (f : Format) (mag : Nat) : f.Represents (f.units mag) := by
  have double : 2 ^ (f.fracBits + 1) = 2 ^ f.fracBits + 2 ^ f.fracBits := by
    rw [Nat.pow_succ, Nat.mul_two]
  unfold units
  split
  · exact ⟨mag, 0, by omega, by rw [Nat.pow_zero, Nat.mul_one]⟩
  · have fraction : mag % 2 ^ f.fracBits < 2 ^ f.fracBits := Nat.mod_lt mag (Nat.two_pow_pos _)
    exact ⟨_, _, by omega, rfl⟩

/-- What a magnitude stands for, by its exponent and its significand. -/
theorem units_scaled {e w : Nat} (bits : w < 2 ^ (f.fracBits + 1))
    (normal : e = 0 ∨ 2 ^ f.fracBits ≤ w) : f.units (e * 2 ^ f.fracBits + w) = w * 2 ^ e := by
  have pos : 0 < 2 ^ f.fracBits := Nat.two_pow_pos _
  rw [Nat.pow_succ, Nat.mul_two] at bits
  by_cases subnormal : w < 2 ^ f.fracBits
  · have least : e = 0 := by omega
    subst least
    rw [Nat.zero_mul, Nat.zero_add, units, if_pos subnormal, Nat.pow_zero, Nat.mul_one]
  · obtain ⟨r, rfl⟩ := Nat.exists_eq_add_of_le (Nat.not_lt.mp subnormal)
    have fraction : r < 2 ^ f.fracBits := by omega
    have pattern : e * 2 ^ f.fracBits + (2 ^ f.fracBits + r) = r + (e + 1) * 2 ^ f.fracBits := by
      rw [Nat.succ_mul]
      omega
    have not_subnormal : ¬ r + (e + 1) * 2 ^ f.fracBits < 2 ^ f.fracBits := by
      rw [Nat.succ_mul]
      omega
    rw [pattern, units, if_neg not_subnormal, Nat.add_mul_mod_self_right, Nat.mod_eq_of_lt fraction,
      Nat.add_mul_div_right _ _ pos, Nat.div_eq_of_lt fraction, Nat.zero_add, Nat.add_sub_cancel]

theorem exponent_dvd (represented : f.Represents u) : 2 ^ f.exponent u ∣ u := by
  obtain ⟨s, k, bits, rfl⟩ := represented
  by_cases zero : s * 2 ^ k = 0
  · exact zero ▸ Nat.dvd_zero _
  · have less : s * 2 ^ k < 2 ^ (f.fracBits + 1 + k) := by
      rw [Nat.pow_add]
      exact Nat.mul_lt_mul_of_pos_right bits (Nat.two_pow_pos k)
    have power := (Nat.log2_lt zero).mpr less
    have least : f.exponent (s * 2 ^ k) ≤ k := by
      unfold exponent
      omega
    exact Nat.dvd_trans (Nat.pow_dvd_pow 2 least) (Nat.dvd_mul_left _ s)

theorem unbounded_mul (u : Nat) (pos : 0 < den) : f.unbounded (u * den) den = f.unbounded u 1 := by
  rw [unbounded, unbounded, Nat.mul_div_cancel u pos, Nat.div_one, Nat.one_mul, Nat.mul_comm den,
    roundDiv_mul_right u _ pos]

theorem round_mul (u : Nat) (pos : 0 < den) : f.round (u * den) den = f.round u 1 := by
  rw [round_eq, round_eq, unbounded_mul u pos]

theorem units_unbounded (represented : f.Represents u) : f.units (f.unbounded u 1) = u := by
  obtain ⟨w, product⟩ := exponent_dvd represented
  have pos : 0 < 2 ^ f.exponent u := Nat.two_pow_pos _
  have quotient : u / 2 ^ f.exponent u = w := by
    rw [Nat.div_eq_of_eq_mul_right pos product]
  have rounded : roundDiv u (2 ^ f.exponent u) = w := by
    have exact_quotient := roundDiv_mul w pos
    rwa [Nat.mul_comm, ← product] at exact_quotient
  have bits : w < 2 ^ (f.fracBits + 1) := by
    have bound := f.significand_lt u
    rwa [quotient, ← Nat.mul_two, ← Nat.pow_succ] at bound
  have normal : f.exponent u = 0 ∨ 2 ^ f.fracBits ≤ w := by
    rcases Nat.eq_zero_or_pos (f.exponent u) with least | scaled
    · exact .inl least
    · exact .inr (quotient ▸ le_significand scaled)
  rw [unbounded, Nat.div_one, Nat.one_mul, rounded, units_scaled bits normal, Nat.mul_comm,
    ← product]

/-- In the range of the format, a number of units is rounded to itself if it is represented. -/
theorem units_round_iff (inRange : f.round u 1 < f.infinity) :
    f.units (f.round u 1) = u ↔ f.Represents u := by
  constructor
  · intro same
    exact same ▸ f.represents_units _
  · intro represented
    have no_bound : f.round u 1 = f.unbounded u 1 := by
      rw [round_eq] at inRange ⊢
      omega
    rw [no_bound, units_unbounded represented]

/-- A represented number of the units of a format is the same number in the units of a wider one. -/
theorem Represents.units_widened (represented : f.Represents u) (scale : g.scale ≤ f.scale)
    (inRange : f.round (u * 2 ^ f.scale) (2 ^ g.scale) < f.infinity) :
    f.units (f.round (u * 2 ^ f.scale) (2 ^ g.scale)) * 2 ^ g.scale = u * 2 ^ f.scale := by
  have scaled : u * 2 ^ f.scale = u * 2 ^ (f.scale - g.scale) * 2 ^ g.scale := by
    rw [Nat.mul_assoc, ← Nat.pow_add, Nat.sub_add_cancel scale]
  rw [scaled, round_mul _ (Nat.two_pow_pos g.scale)] at inRange ⊢
  rw [(units_round_iff inRange).mpr (represented.mul _)]

end Format

variable {i : Int}

theorem ofInt_eq (i : Int) : (ofInt i : Binary f) =
    .num (i < 0) ⟨f.round (i.natAbs * 2 ^ f.scale) 1, Nat.lt_succ_of_le (Nat.min_le_right _ _)⟩ :=
  rfl

theorem rank_inj {neg : Bool} {m n : Nat} : rank neg m = rank neg n ↔ m = n := by
  cases neg with
  | false => exact Int.natCast_inj
  | true => exact Int.neg_inj.trans Int.natCast_inj

theorem rank_of_sign (i : Int) : rank (i < 0) i.natAbs = i := by
  unfold rank
  by_cases negative : i < 0
  · rw [decide_eq_true negative, if_pos rfl]
    omega
  · rw [decide_eq_false negative, if_neg Bool.false_ne_true]
    omega

theorem rank_eq_iff {m : Nat} : rank (i < 0) m = i ↔ m = i.natAbs := by
  conv => lhs; rhs; rw [← rank_of_sign i]
  exact rank_inj

theorem rank_mul (neg : Bool) (m n : Nat) : rank neg (m * n) = rank neg m * n := by
  cases neg with
  | false => exact Int.natCast_mul m n
  | true => simp only [rank, if_true, Int.natCast_mul, Int.neg_mul]

theorem rank_tdiv (neg : Bool) (m n : Nat) : (rank neg m).tdiv n = rank neg (m / n) := by
  cases neg with
  | false => exact Int.ofNat_tdiv m n
  | true => simp only [rank, if_true, Int.ofNat_tdiv, Int.neg_tdiv]

theorem signedUnits_eq_rank (neg : Bool) (mag : Nat) :
    signedUnits (f := f) neg mag = rank neg (f.units mag) := rfl

/-- The number that a finite one stands for. -/
def exactValue? : Binary f → Option Rat
  | .nan => none
  | .num neg mag =>
    if mag.val < f.infinity then some (mkRat (signedUnits (f := f) neg mag) (2 ^ f.scale)) else none

theorem exactValue?_eq_int {neg : Bool} {mag : Fin (f.infinity + 1)}
    (finite : mag.val < f.infinity) : (num neg mag : Binary f).exactValue? = some (i : Rat) ↔
      rank neg (f.units mag) = i * (2 ^ f.scale : Nat) := by
  have scale : 2 ^ f.scale ≠ 0 := Nat.ne_of_gt (Nat.two_pow_pos _)
  rw [exactValue?, if_pos finite, Option.some_inj, ← Rat.mkRat_one,
    Rat.mkRat_eq_iff scale Nat.one_ne_zero, signedUnits_eq_rank, Int.natCast_one, Int.mul_one]

/-- The integer is rounded to a finite number. -/
def InRange (f : Format) (i : Int) : Prop := f.round (i.natAbs * 2 ^ f.scale) 1 < f.infinity

instance (f : Format) (i : Int) : Decidable (InRange f i) := inferInstanceAs (Decidable (_ < _))

theorem InRange.mono {j : Int} (inRange : InRange f j) (smaller : i.natAbs ≤ j.natAbs) :
    InRange f i :=
  Nat.lt_of_le_of_lt (f.round_mono (Nat.mul_le_mul_right _ smaller) 1) inRange

theorem units_ofInt (inRange : InRange f i) :
    f.units (f.round (i.natAbs * 2 ^ f.scale) 1) = i.natAbs * 2 ^ f.scale ↔
      f.Represents i.natAbs := by
  rw [Format.units_round_iff inRange, Format.represents_mul_iff]

/-- An integer is the number that it is rounded to just if the format represents it. -/
theorem exactValue?_ofInt (inRange : InRange f i) :
    (ofInt i : Binary f).exactValue? = some (i : Rat) ↔ f.Represents i.natAbs := by
  have exact_units : rank (i < 0) (i.natAbs * 2 ^ f.scale) = i * (2 ^ f.scale : Nat) := by
    rw [rank_mul, rank_of_sign]
  have finite : f.round (i.natAbs * 2 ^ f.scale) 1 < f.infinity := inRange
  rw [ofInt, ofUnits, exactValue?_eq_int finite, ← exact_units, rank_inj, units_ofInt inRange]

/-- What is left of the number without its fraction is the integer just if the format represents
it. A fraction is only there where the significand takes all bits of the format. -/
theorem truncate_ofInt (inRange : InRange f i) :
    (ofInt i : Binary f).truncate = i ↔ f.Represents i.natAbs := by
  have whole : (ofInt i : Binary f).truncate = i ↔
      f.units (f.round (i.natAbs * 2 ^ f.scale) 1) / 2 ^ f.scale = i.natAbs := by
    rw [ofInt, ofUnits, truncate, signedUnits_eq_rank, rank_tdiv, rank_eq_iff]
  rw [whole]
  constructor
  · intro same
    exact same ▸ (f.represents_units _).div f.scale
  · intro represented
    rw [(units_ofInt inRange).mpr represented, Nat.mul_div_cancel _ (Nat.two_pow_pos _)]

theorem cast_finite {neg : Bool} {mag : Fin (f.infinity + 1)} (finite : mag.val < f.infinity) :
    (num neg mag : Binary f).cast g = ofUnits neg (f.units mag * 2 ^ g.scale) (2 ^ f.scale) := by
  rw [cast, if_pos finite]

theorem cast_ofInt (inRange : InRange f i) (represented : f.Represents i.natAbs) :
    (ofInt i : Binary f).cast g = ofInt i := by
  have finite : f.round (i.natAbs * 2 ^ f.scale) 1 < f.infinity := inRange
  have exact_units := (units_ofInt inRange).mpr represented
  have swapped : i.natAbs * 2 ^ f.scale * 2 ^ g.scale = i.natAbs * 2 ^ g.scale * 2 ^ f.scale :=
    Nat.mul_right_comm ..
  rw [ofInt_eq, cast_finite finite, exact_units, swapped]
  simp only [ofInt, ofUnits, Format.round_mul _ (Nat.two_pow_pos f.scale)]

/-- An integer of a wider format comes back from a narrower one as the number that it was just if
the narrower format represents it. -/
theorem cast_back_iff (bits : g.fracBits ≤ f.fracBits) (scale : g.scale ≤ f.scale)
    (wide : InRange f i) (narrow : InRange g i) (represented : f.Represents i.natAbs) :
    (((ofInt i : Binary f).cast g).cast f).equal (ofInt i : Binary f) ↔ g.Represents i.natAbs := by
  rw [cast_ofInt wide represented]
  constructor
  · intro same
    have finite : g.round (i.natAbs * 2 ^ g.scale) 1 < g.infinity := narrow
    rw [ofInt_eq (f := g), cast_finite finite] at same
    generalize units_of : g.units (g.round (i.natAbs * 2 ^ g.scale) 1) = u at same
    have back : f.round (u * 2 ^ f.scale) (2 ^ g.scale) = f.round (i.natAbs * 2 ^ f.scale) 1 :=
      magnitude_of_equal same
    have u_represented : g.Represents u := units_of ▸ g.represents_units _
    have kept := (u_represented.mono bits).units_widened scale (back ▸ wide)
    rw [back, (units_ofInt wide).mpr represented, Nat.mul_right_comm] at kept
    have units_kept := Nat.eq_of_mul_eq_mul_right (Nat.two_pow_pos f.scale) kept
    exact (units_ofInt narrow).mp (units_of.trans units_kept.symm)
  · intro narrow_represented
    rw [cast_ofInt narrow narrow_represented, equal_self]
    rfl

/-- Between two integers that are rounded to the same number, all are rounded to it. -/
theorem ofInt_between {low high : Int} (nonneg : 0 ≤ low) (above : low ≤ i) (below : i ≤ high)
    (ends : (ofInt low : Binary f) = ofInt high) : (ofInt i : Binary f) = ofInt high := by
  have lower : (ofInt low : Binary f).place ≤ (ofInt i : Binary f).place := place_ofInt_mono above
  have upper : (ofInt i : Binary f).place ≤ (ofInt high : Binary f).place := place_ofInt_mono below
  have positive : ¬ i < 0 := by omega
  have high_positive : ¬ high < 0 := by omega
  rw [ends] at lower
  have places : (ofInt i : Binary f).place = (ofInt high : Binary f).place :=
    Int.le_antisymm upper lower
  rw [place_ofInt, place_ofInt, decide_eq_false positive, decide_eq_false high_positive,
    rank_inj] at places
  rw [ofInt_eq, ofInt_eq, decide_eq_false positive, decide_eq_false high_positive]
  simp only [places]

end Binary

end RulePipeline
