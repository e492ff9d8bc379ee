import RulePipeline.Failure
import RulePipeline.Proofs.SortedMap
import RulePipeline.Proofs.Value.Equality

/-! Values as documents and back. A document comes back as it was; of the values, just those that
documents are read as. -/
namespace RulePipeline

attribute [local instance (high)] instPowNat

namespace Binary

variable {f : Format} {x y : Binary f}

theorem isFinite_of_equal (same : x.equal y) (finite : x.isFinite) : y.isFinite := by
  cases x with
  | nan => cases finite
  | num sx mag =>
    cases y with
    | nan => cases same
    | num sy other =>
      simpa [isFinite, ← magnitude_of_equal same] using finite

end Binary

namespace IntKind

theorem least_i64 : least .i64 = -9223372036854775808 := rfl
theorem greatest_i64 : greatest .i64 = 9223372036854775807 := rfl
theorem least_u64 : least .u64 = 0 := rfl
theorem greatest_u64 : greatest .u64 = 18446744073709551615 := rfl

end IntKind

theorem FixedInt.range_of_64_bits (i : FixedInt) :
    IntKind.least .i64 ≤ i.val ∧ i.val ≤ IntKind.greatest .u64 := by
  have least : IntKind.least .i64 ≤ i.kind.least := by cases i.kind <;> decide
  have greatest : i.kind.greatest ≤ IntKind.greatest .u64 := by cases i.kind <;> decide
  exact ⟨Int.le_trans least i.inRange.1, Int.le_trans i.inRange.2 greatest⟩

namespace Value

theorem ofInt?_of_range {kind : IntKind} {n : Int}
    (inRange : kind.least ≤ n ∧ n ≤ kind.greatest) :
    ofInt? kind n = some (.int ⟨kind, n, inRange⟩) := by
  rw [ofInt?, FixedInt.ofInt?, dif_pos inRange]
  rfl

theorem ofInt?_of_outside {kind : IntKind} {n : Int}
    (outside : ¬ (kind.least ≤ n ∧ n ≤ kind.greatest)) : ofInt? kind n = none := by
  rw [ofInt?, FixedInt.ofInt?, dif_neg outside]
  rfl

mutual

/-- There is nothing in the value that documents are not read as. -/
def Native : Value → Prop
  | .nil | .bool _ | .string _ => True
  | .int n => n.kind = .i64 ∨ n.kind = .u64 ∧ IntKind.greatest .i64 < n.val
  | .f64 x => x.isFinite
  | .list items => NativeItems items
  | .map entries => NativeEntries entries
  | .f32 _ | .record _ _ | .ref _ | .host _ => False

def NativeItems : List Value → Prop
  | [] => True
  | v :: rest => v.Native ∧ NativeItems rest

def NativeEntries : List (String × Value) → Prop
  | [] => True
  | (_, v) :: rest => v.Native ∧ NativeEntries rest

end

/-- The value of the document of a value. -/
def normalized (v : Value) : Value := ofJson v.toJson

theorem jsonInt_eq (i : FixedInt) : ∃ inRange, jsonInt i = .num (.int i.val inRange) := by
  obtain ⟨low, high⟩ := i.range_of_64_bits
  have inRange : -2 ^ (63 : Nat) ≤ i.val ∧ i.val < 2 ^ (64 : Nat) := by
    rw [IntKind.least_i64] at low
    rw [IntKind.greatest_u64] at high
    omega
  refine ⟨inRange, ?_⟩
  rw [jsonInt, Json.int?, Json.Number.ofInt?, dif_pos inRange]
  rfl

/-- An integer in a document is that of a signed kind unless it is too great for it. -/
theorem ofNumber_int (n : Int) (inRange : -2 ^ (63 : Nat) ≤ n ∧ n < 2 ^ (64 : Nat)) :
    ∃ i, ofNumber (.int n inRange) = .int i ∧ i.val = n ∧ (Value.int i).Native := by
  by_cases signed : n ≤ IntKind.greatest .i64
  · have fits : IntKind.least .i64 ≤ n ∧ n ≤ IntKind.greatest .i64 := by
      rw [IntKind.least_i64]
      omega
    refine ⟨⟨.i64, n, fits⟩, ?_, rfl, .inl rfl⟩
    simp [ofNumber, ofInt?, FixedInt.ofInt?, fits]
  · have fits : IntKind.least .u64 ≤ n ∧ n ≤ IntKind.greatest .u64 := by
      rw [IntKind.greatest_i64] at signed
      rw [IntKind.least_u64, IntKind.greatest_u64]
      omega
    have beyond : ¬ (IntKind.least .i64 ≤ n ∧ n ≤ IntKind.greatest .i64) := fun both =>
      signed both.2
    refine ⟨⟨.u64, n, fits⟩, ?_, rfl, .inr ⟨rfl, Int.not_le.mp signed⟩⟩
    simp [ofNumber, ofInt?, FixedInt.ofInt?, fits, beyond]

/-- Among the native integers, each number has one kind. -/
theorem native_int_eq {i k : FixedInt} (left : (Value.int i).Native) (right : (Value.int k).Native)
    (same : i.val = k.val) : i = k := by
  have kinds : i.kind = k.kind := by
    rcases left with left | ⟨left, beyond⟩
    · rcases right with right | ⟨right, beyond⟩
      · rw [left, right]
      · have small : i.val ≤ IntKind.greatest .i64 := left ▸ i.inRange.2
        omega
    · rcases right with right | ⟨right, -⟩
      · have small : k.val ≤ IntKind.greatest .i64 := right ▸ k.inRange.2
        omega
      · rw [left, right]
  cases i
  cases k
  cases kinds
  cases same
  rfl

theorem toJson_f64 {x : Binary64} (finite : x.isFinite) :
    (Value.f64 x).toJson = .num (.float x finite) := by
  rw [toJson, Json.ofFloat, Json.Number.ofFloat?, dif_pos finite]
  rfl

mutual

theorem toJson_ofJson : (j : Json) → (ofJson j).toJson = j
  | .null | .bool _ | .str _ => rfl
  | .num (.int n inRange) => by
    obtain ⟨i, read, rfl, -⟩ := ofNumber_int n inRange
    obtain ⟨_, written⟩ := jsonInt_eq i
    rw [ofJson, read, toJson, written]
  | .num (.float x finite) => toJson_f64 finite
  | .arr items => by rw [ofJson, toJson, toJsonItems_ofJsonItems items]
  | .obj members => by rw [ofJson, toJson, toJsonEntries_ofJsonMembers members]

theorem toJsonItems_ofJsonItems : (items : List Json) → toJsonItems (ofJsonItems items) = items
  | [] => rfl
  | j :: rest => by
    rw [ofJsonItems, toJsonItems, toJson_ofJson j, toJsonItems_ofJsonItems rest]

theorem toJsonEntries_ofJsonMembers : (members : List (String × Json)) →
    toJsonEntries (ofJsonMembers members) = members
  | [] => rfl
  | (name, j) :: rest => by
    rw [ofJsonMembers, toJsonEntries, toJson_ofJson j, toJsonEntries_ofJsonMembers rest]

end

mutual

theorem ofJson_native : (j : Json) → (ofJson j).Native
  | .null | .bool _ | .str _ => trivial
  | .num (.int n inRange) => by
    obtain ⟨i, read, -, native⟩ := ofNumber_int n inRange
    rw [ofJson, read]
    exact native
  | .num (.float _ finite) => finite
  | .arr items => ofJsonItems_native items
  | .obj members => ofJsonMembers_native members

theorem ofJsonItems_native : (items : List Json) → NativeItems (ofJsonItems items)
  | [] => trivial
  | j :: rest => ⟨ofJson_native j, ofJsonItems_native rest⟩

theorem ofJsonMembers_native : (members : List (String × Json)) →
    NativeEntries (ofJsonMembers members)
  | [] => trivial
  | (_, j) :: rest => ⟨ofJson_native j, ofJsonMembers_native rest⟩

end

mutual

theorem ofJson_toJson : (v : Value) → v.Native → ofJson v.toJson = v
  | .nil, _ | .bool _, _ | .string _, _ => rfl
  | .int i, native => by
    obtain ⟨inRange, written⟩ := jsonInt_eq i
    obtain ⟨k, read, same, read_native⟩ := ofNumber_int i.val inRange
    rw [toJson, written, ofJson, read, native_int_eq read_native native same]
  | .f64 x, finite => by
    have finite : x.isFinite := finite
    rw [toJson_f64 finite, ofJson, ofNumber]
  | .list items, native => by rw [toJson, ofJson, ofJsonItems_toJsonItems items native]
  | .map entries, native => by rw [toJson, ofJson, ofJsonMembers_toJsonEntries entries native]

theorem ofJsonItems_toJsonItems : (items : List Value) → NativeItems items →
    ofJsonItems (toJsonItems items) = items
  | [], _ => rfl
  | v :: rest, ⟨first, later⟩ => by
    rw [toJsonItems, ofJsonItems, ofJson_toJson v first, ofJsonItems_toJsonItems rest later]

theorem ofJsonMembers_toJsonEntries : (entries : List (String × Value)) → NativeEntries entries →
    ofJsonMembers (toJsonEntries entries) = entries
  | [], _ => rfl
  | (name, v) :: rest, ⟨first, later⟩ => by
    rw [toJsonEntries, ofJsonMembers, ofJson_toJson v first,
      ofJsonMembers_toJsonEntries rest later]

end

mutual

theorem equal_self_of_native : (v : Value) → v.Native → v.equal v
  | .nil, _ => by simp [equal]
  | .bool b, _ => by simp [equal]
  | .int i, _ => by simp [equal]
  | .f64 x, finite => by
    have number : x.isNaN = false := by
      cases x with
      | nan => cases finite
      | num _ _ => rfl
    rw [equal, Binary.equal_self, number, Bool.not_false]
  | .string s, _ => by simp [equal]
  | .list items, native => by rw [equal, equalItems_self_of_native items native]
  | .map entries, native => by rw [equal, equalEntries_self_of_native entries native]

theorem equalItems_self_of_native : (items : List Value) → NativeItems items →
    equalItems items items
  | [], _ => by simp [equalItems]
  | v :: rest, ⟨first, later⟩ => by
    simp [equalItems, equal_self_of_native v first, equalItems_self_of_native rest later]

theorem equalEntries_self_of_native : (entries : List (String × Value)) → NativeEntries entries →
    equalEntries entries entries
  | [], _ => by simp [equalEntries]
  | (name, v) :: rest, ⟨first, later⟩ => by
    simp [equalEntries, equal_self_of_native v first, equalEntries_self_of_native rest later]

end

mutual

/-- What is equal to a native value is native, a zero of the other sign included. -/
theorem native_of_equal : (v w : Value) → v.equal w → v.Native → w.Native
  | .nil, w, same, _ | .bool _, w, same, _ | .string _, w, same, _ => by
    cases w <;> simp [equal] at same
    trivial
  | .int i, w, same, native => by
    cases w with
    | int k =>
      have equal_ints : i = k := by simpa [equal] using same
      exact equal_ints ▸ native
    | _ => simp [equal] at same
  | .f64 x, w, same, finite => by
    cases w with
    | f64 y =>
      rw [equal] at same
      exact Binary.isFinite_of_equal same finite
    | _ => simp [equal] at same
  | .list items, w, same, native => by
    cases w with
    | list others =>
      rw [equal] at same
      exact nativeItems_of_equal items others same native
    | _ => simp [equal] at same
  | .map entries, w, same, native => by
    cases w with
    | map others =>
      rw [equal] at same
      exact nativeEntries_of_equal entries others same native
    | _ => simp [equal] at same

theorem nativeItems_of_equal : (items others : List Value) → equalItems items others →
    NativeItems items → NativeItems others
  | _, [], _, _ => trivial
  | [], _ :: _, same, _ => by simp [equalItems] at same
  | v :: rest, w :: others, same, ⟨first, later⟩ => by
    rw [equalItems, Bool.and_eq_true] at same
    exact ⟨native_of_equal v w same.1 first, nativeItems_of_equal rest others same.2 later⟩

theorem nativeEntries_of_equal : (entries others : List (String × Value)) →
    equalEntries entries others → NativeEntries entries → NativeEntries others
  | _, [], _, _ => trivial
  | [], _ :: _, same, _ => by simp [equalEntries] at same
  | (m, v) :: rest, (n, w) :: others, same, ⟨first, later⟩ => by
    rw [equalEntries, Bool.and_eq_true, Bool.and_eq_true] at same
    exact ⟨native_of_equal v w same.1.2 first, nativeEntries_of_equal rest others same.2 later⟩

end

theorem normalized_native (v : Value) : v.normalized.Native := ofJson_native v.toJson

theorem toJson_normalized (v : Value) : v.normalized.toJson = v.toJson := toJson_ofJson v.toJson

theorem normalized_eq_iff {v : Value} : v.normalized = v ↔ v.Native := by
  constructor
  · intro same
    exact same ▸ v.normalized_native
  · exact ofJson_toJson v

theorem normalized_equal_iff {v : Value} : v.normalized.equal v ↔ v.Native := by
  constructor
  · intro same
    exact native_of_equal _ v same v.normalized_native
  · intro native
    rw [normalized_eq_iff.mpr native]
    exact equal_self_of_native v native

theorem native_iff_ofJson {v : Value} : v.Native ↔ ∃ j, ofJson j = v := by
  constructor
  · intro native
    exact ⟨v.toJson, ofJson_toJson v native⟩
  · rintro ⟨j, rfl⟩
    exact ofJson_native j

theorem ofJsonMembers_eq (members : List (String × Json)) :
    ofJsonMembers members = Entries.map ofJson members := by
  induction members with
  | nil => rfl
  | cons m rest ih => rw [ofJsonMembers, ih, Entries.map_cons]

end Value

namespace Context

theorem toJson_ofJson {members : List (String × Json)} (sorted : Entries.Sorted members) :
    ∃ c, Context.ofJson (.obj members) = .ok c ∧ c.toJson = .obj members := by
  have entries_sorted : Entries.Sorted (Value.ofJsonMembers members) := by
    rw [Value.ofJsonMembers_eq]
    exact sorted.map
  have kept : Entries.ofList (Value.ofJsonMembers members) = Value.ofJsonMembers members :=
    Entries.ofList_of_sorted entries_sorted
  refine ⟨.ofList (Value.ofJsonMembers members), rfl, ?_⟩
  calc (Context.toJson (.ofList (Value.ofJsonMembers members)))
      = .obj (Value.toJsonEntries (Entries.ofList (Value.ofJsonMembers members))) := rfl
    _ = .obj members := by rw [kept, Value.toJsonEntries_ofJsonMembers]

theorem ofJson_of_ne_obj {j : Json} (other : ∀ members, j ≠ .obj members) :
    Context.ofJson j =
      .error (.config ("initial context must be a JSON object, got " ++ j.compact)) := by
  cases j with
  | obj members => exact absurd rfl (other members)
  | _ => rfl

end Context

/-- Each document comes back from its value. Just the values of documents come back from their
documents, whether they are compared as they are or by `equal`; for any other value, the way there
and back ends at one with the same document. Objects make contexts and come back from them, and
nothing else makes one. -/
theorem values_read_back :
    (∀ j, (Value.ofJson j).toJson = j) ∧
    (∀ v : Value, (v.Native ↔ ∃ j, Value.ofJson j = v) ∧ (v.normalized = v ↔ v.Native) ∧
      (v.normalized.equal v ↔ v.Native)) ∧
    (∀ v : Value, v.normalized.normalized = v.normalized ∧ v.normalized.toJson = v.toJson) ∧
    (∀ members, Entries.Sorted members →
      ∃ c, Context.ofJson (.obj members) = .ok c ∧ c.toJson = .obj members) ∧
    ∀ j, (∀ members, j ≠ .obj members) → Context.ofJson j =
      .error (.config ("initial context must be a JSON object, got " ++ j.compact)) := by
  refine ⟨Value.toJson_ofJson, fun v => ?_, fun v => ?_, fun _ => Context.toJson_ofJson,
    fun _ => Context.ofJson_of_ne_obj⟩
  · exact ⟨Value.native_iff_ofJson, Value.normalized_eq_iff, Value.normalized_equal_iff⟩
  · exact ⟨Value.normalized_eq_iff.mpr v.normalized_native, v.toJson_normalized⟩

/-- The least integer that takes an unsigned kind, and a zero with its sign. -/
theorem values_read_back_boundary :
    let beyond : Int := 9223372036854775808
    let zero : Binary64 := .zero true
    let members : List (String × Json) :=
      [("beyond", .num (.int beyond (by decide))), ("zero", .arr [.num (.float zero rfl)])]
    let v : Value :=
      .map [("beyond", .int ⟨.u64, beyond, by decide⟩), ("zero", .list [.f64 zero])]
    let within : Value := .int ⟨.u64, beyond - 1, by decide⟩
    (Entries.Sorted members ∧ (∀ members, Json.arr [] ≠ .obj members) ∧ v.Native ∧
      ¬ within.Native) ∧
    (v.normalized = v ∧ within.normalized ≠ within) ∧
    (∃ c, Context.ofJson (.obj members) = .ok c ∧ c.toJson = .obj members) ∧
    Context.ofJson (.arr []) =
      .error (.config ("initial context must be a JSON object, got " ++ (Json.arr []).compact)) := by
  intro beyond zero members v within
  have sorted : Entries.Sorted members := by decide
  have other : ∀ members, Json.arr [] ≠ .obj members := nofun
  have native : v.Native := ⟨.inr ⟨rfl, by decide⟩, ⟨rfl, trivial⟩, trivial⟩
  have not_native : ¬ within.Native := by
    rintro (kind | ⟨-, above⟩)
    · cases kind
    · exact absurd above (by decide)
  obtain ⟨-, images, -, contexts, others⟩ := values_read_back
  exact ⟨⟨sorted, other, native, not_native⟩,
    ⟨(images v).2.1.mpr native, fun same => not_native ((images within).2.1.mp same)⟩,
    contexts members sorted, others _ other⟩

end RulePipeline
