import RulePipeline.Value.Basic

/-! Equality of values by their structure. It is symmetric and transitive, and a value is equal to
itself unless there is a NaN somewhere in it. -/
namespace RulePipeline

namespace Binary

variable {f : Format} {x y z : Binary f}

/-- Exchanged operands have the reversed order. -/
theorem order_swap (x y : Binary f) : y.order x = (x.order y).map Ordering.swap := by
  cases x with
  | nan => cases y <;> rfl
  | num sx mx =>
    cases y with
    | nan => rfl
    | num sy my => exact congrArg some Std.OrientedOrd.eq_swap

theorem equal_comm (x y : Binary f) : x.equal y = y.equal x := by
  rw [equal, equal, order_swap x y]
  cases x.order y with
  | none => rfl
  | some o => cases o <;> rfl

theorem order_eq_iff : x.order y = some .eq ↔ x.equal y := by
  simp [equal]

theorem equal_trans (first : x.equal y) (second : y.equal z) : x.equal z := by
  cases x with
  | nan => cases first
  | num sx mx =>
    cases y with
    | nan => cases first
    | num sy my =>
      cases z with
      | nan => cases second
      | num sz mz =>
        have left : rank sx mx = rank sy my := by simpa [equal, order] using first
        have right : rank sy my = rank sz mz := by simpa [equal, order] using second
        simp [equal, order, left, right]

theorem equal_self (x : Binary f) : x.equal x = !x.isNaN := by
  cases x with
  | nan => rfl
  | num neg mag => simp [equal, order, isNaN]

theorem natAbs_rank (neg : Bool) (mag : Nat) : (rank neg mag).natAbs = mag := by
  cases neg <;> simp [rank]

theorem magnitude_of_equal {sx sy : Bool} {mx my : Fin (f.infinity + 1)}
    (same : (num sx mx : Binary f).equal (num sy my)) : mx.val = my.val := by
  have ranks : rank sx mx = rank sy my := by simpa [equal, order] using same
  rw [← natAbs_rank sx mx, ranks, natAbs_rank]

end Binary

namespace Value

mutual

/-- Whether there is a NaN anywhere in the value, in a hidden field or behind a reference too. -/
def hasNaN : Value → Bool
  | .f32 x => x.isNaN
  | .f64 x => x.isNaN
  | .list items => hasNaNItems items
  | .map entries => hasNaNEntries entries
  | .record _ fields => hasNaNFields fields
  | .ref target => target.hasNaN
  | .nil | .bool _ | .int _ | .string _ | .host _ => false

def hasNaNItems : List Value → Bool
  | [] => false
  | v :: rest => v.hasNaN || hasNaNItems rest

def hasNaNEntries : List (String × Value) → Bool
  | [] => false
  | (_, v) :: rest => v.hasNaN || hasNaNEntries rest

def hasNaNFields : List (Field Value) → Bool
  | [] => false
  | ⟨_, v, _⟩ :: rest => v.hasNaN || hasNaNFields rest

end

mutual

theorem equal_self : (v : Value) → v.equal v = !v.hasNaN
  | .nil | .bool _ | .int _ | .string _ | .host _ => by simp [equal, hasNaN]
  | .f32 x | .f64 x => by rw [equal, x.equal_self, hasNaN]
  | .list items => by rw [equal, equalItems_self items, hasNaN]
  | .map entries => by rw [equal, equalEntries_self entries, hasNaN]
  | .record _ fields => by simp [equal, equalFields_self fields, hasNaN]
  | .ref target => by rw [equal, equal_self target, hasNaN]

theorem equalItems_self : (items : List Value) → equalItems items items = !hasNaNItems items
  | [] => by simp [equalItems, hasNaNItems]
  | v :: rest => by simp [equalItems, equal_self v, equalItems_self rest, hasNaNItems]

theorem equalEntries_self : (entries : List (String × Value)) →
    equalEntries entries entries = !hasNaNEntries entries
  | [] => by simp [equalEntries, hasNaNEntries]
  | (_, v) :: rest => by simp [equalEntries, equal_self v, equalEntries_self rest, hasNaNEntries]

theorem equalFields_self : (fields : List (Field Value)) →
    equalFields fields fields = !hasNaNFields fields
  | [] => by simp [equalFields, hasNaNFields]
  | ⟨_, v, _⟩ :: rest => by simp [equalFields, equal_self v, equalFields_self rest, hasNaNFields]

end

mutual

theorem equal_comm : (v w : Value) → v.equal w = w.equal v
  | .nil, w | .bool _, w | .int _, w | .string _, w | .host _, w => by
    cases w <;> simp [equal, Bool.beq_comm]
  | .f32 x, w => by
    cases w with
    | f32 y => rw [equal, equal, x.equal_comm y]
    | _ => simp [equal]
  | .f64 x, w => by
    cases w with
    | f64 y => rw [equal, equal, x.equal_comm y]
    | _ => simp [equal]
  | .list items, w => by
    cases w with
    | list others => rw [equal, equal, equalItems_comm items others]
    | _ => simp [equal]
  | .map entries, w => by
    cases w with
    | map others => rw [equal, equal, equalEntries_comm entries others]
    | _ => simp [equal]
  | .record s fields, w => by
    cases w with
    | record t others => rw [equal, equal, equalFields_comm fields others, BEq.comm]
    | _ => simp [equal]
  | .ref target, w => by
    cases w with
    | ref other => rw [equal, equal, equal_comm target other]
    | _ => simp [equal]

theorem equalItems_comm : (items others : List Value) →
    equalItems items others = equalItems others items
  | [], [] => rfl
  | [], _ :: _ | _ :: _, [] => by simp [equalItems]
  | v :: rest, w :: others => by
    rw [equalItems, equalItems, equal_comm v w, equalItems_comm rest others]

theorem equalEntries_comm : (entries others : List (String × Value)) →
    equalEntries entries others = equalEntries others entries
  | [], [] => rfl
  | [], _ :: _ | _ :: _, [] => by simp [equalEntries]
  | (m, v) :: rest, (n, w) :: others => by
    rw [equalEntries, equalEntries, equal_comm v w, equalEntries_comm rest others,
      BEq.comm (a := m)]

theorem equalFields_comm : (fields others : List (Field Value)) →
    equalFields fields others = equalFields others fields
  | [], [] => rfl
  | [], _ :: _ | _ :: _, [] => by simp [equalFields]
  | ⟨m, v, p⟩ :: rest, ⟨n, w, q⟩ :: others => by
    rw [equalFields, equalFields, equal_comm v w, equalFields_comm rest others, BEq.comm (a := m),
      BEq.comm (a := p)]

end

mutual

theorem equal_trans : (u v w : Value) → u.equal v → v.equal w → u.equal w
  | .nil, v, w, first, second => by
    cases v <;> simp [equal] at first
    exact second
  | .bool _, v, w, first, second | .int _, v, w, first, second | .string _, v, w, first, second
  | .host _, v, w, first, second => by
    cases v <;> simp [equal] at first
    exact first ▸ second
  | .f32 x, v, w, first, second => by
    cases v <;> simp [equal] at first
    cases w <;> simp [equal] at second
    rw [equal, Binary.equal_trans first second]
  | .f64 x, v, w, first, second => by
    cases v <;> simp [equal] at first
    cases w <;> simp [equal] at second
    rw [equal, Binary.equal_trans first second]
  | .list xs, v, w, first, second => by
    cases v <;> simp [equal] at first
    cases w <;> simp [equal] at second
    rw [equal, equalItems_trans xs _ _ first second]
  | .map xs, v, w, first, second => by
    cases v <;> simp [equal] at first
    cases w <;> simp [equal] at second
    rw [equal, equalEntries_trans xs _ _ first second]
  | .record r xs, v, w, first, second => by
    cases v <;> simp [equal] at first
    cases w <;> simp [equal] at second
    simp [equal, first.1, second.1, equalFields_trans xs _ _ first.2 second.2]
  | .ref x, v, w, first, second => by
    cases v <;> simp [equal] at first
    cases w <;> simp [equal] at second
    rw [equal, equal_trans x _ _ first second]

theorem equalItems_trans : (xs ys zs : List Value) → equalItems xs ys → equalItems ys zs →
    equalItems xs zs
  | [], [], _, _, second => second
  | [], _ :: _, _, first, _ | _ :: _, [], _, first, _ => by simp [equalItems] at first
  | _ :: _, _ :: _, [], _, second => by simp [equalItems] at second
  | u :: xs, v :: ys, w :: zs, first, second => by
    simp only [equalItems, Bool.and_eq_true] at first second ⊢
    exact ⟨equal_trans u v w first.1 second.1, equalItems_trans xs ys zs first.2 second.2⟩

theorem equalEntries_trans : (xs ys zs : List (String × Value)) → equalEntries xs ys →
    equalEntries ys zs → equalEntries xs zs
  | [], [], _, _, second => second
  | [], _ :: _, _, first, _ | _ :: _, [], _, first, _ => by simp [equalEntries] at first
  | _ :: _, _ :: _, [], _, second => by simp [equalEntries] at second
  | (_, u) :: xs, (_, v) :: ys, (_, w) :: zs, first, second => by
    simp only [equalEntries, Bool.and_eq_true, beq_iff_eq] at first second ⊢
    obtain ⟨⟨rfl, value⟩, rest⟩ := first
    obtain ⟨⟨rfl, value'⟩, rest'⟩ := second
    exact ⟨⟨rfl, equal_trans u v w value value'⟩, equalEntries_trans xs ys zs rest rest'⟩

theorem equalFields_trans : (xs ys zs : List (Field Value)) → equalFields xs ys →
    equalFields ys zs → equalFields xs zs
  | [], [], _, _, second => second
  | [], _ :: _, _, first, _ | _ :: _, [], _, first, _ => by simp [equalFields] at first
  | _ :: _, _ :: _, [], _, second => by simp [equalFields] at second
  | ⟨_, u, _⟩ :: xs, ⟨_, v, _⟩ :: ys, ⟨_, w, _⟩ :: zs, first, second => by
    simp only [equalFields, Bool.and_eq_true, beq_iff_eq] at first second ⊢
    obtain ⟨⟨⟨rfl, value⟩, rfl⟩, rest⟩ := first
    obtain ⟨⟨⟨rfl, value'⟩, rfl⟩, rest'⟩ := second
    exact ⟨⟨⟨rfl, equal_trans u v w value value'⟩, rfl⟩, equalFields_trans xs ys zs rest rest'⟩

end

end Value

end RulePipeline
