import RulePipeline.DataSource
import RulePipeline.Proofs.Relation.Equality
import RulePipeline.Proofs.Relation.Integers
import RulePipeline.Proofs.Value.RoundTrip

/-! Integers as integers of another kind. Just those values convert that resolve to an integer in
the range of the kind, and they become that very integer, so that they can be converted back. A
source of such a parameter is called with the converted integer, or it is not called at all. -/
namespace RulePipeline

theorem Value.ofInt?_eq_some_iff {kind : IntKind} {n : Int} {v : Value} :
    Value.ofInt? kind n = some v ↔
      ∃ fits : kind.least ≤ n ∧ n ≤ kind.greatest, v = .int ⟨kind, n, fits⟩ := by
  by_cases fits : kind.least ≤ n ∧ n ≤ kind.greatest
  · rw [Value.ofInt?_of_range fits, Option.some_inj]
    exact ⟨fun same => ⟨fits, same.symm⟩, fun ⟨_, same⟩ => same.symm⟩
  · rw [Value.ofInt?_of_outside fits]
    exact ⟨nofun, fun ⟨inside, _⟩ => absurd inside fits⟩

namespace ValueType

variable {k : IntKind} {v t : Value} {n : FixedInt}

theorem convert_of_int (k : IntKind) (integer : v.resolved = .int n) :
    (ValueType.int k).convert v = Value.ofInt? k n.val := by
  obtain ⟨p, number, same⟩ := Value.exists_numeric_int n
  rw [convert, integer, number, Option.bind_some, same, Option.bind_some]

theorem convert_of_not_int (k : IntKind) (other : ¬ v.IsInteger) :
    (ValueType.int k).convert v = none := by
  rw [convert]
  cases resolved : v.resolved with
  | int n => exact absurd ⟨n, resolved⟩ other
  | _ => rfl

/-- The value resolves to an integer that the kind can hold; `t` is this integer in that kind. -/
def IntegerAs (k : IntKind) (v t : Value) : Prop :=
  ∃ (n : FixedInt) (fits : k.least ≤ n.val ∧ n.val ≤ k.greatest),
    v.resolved = .int n ∧ t = .int ⟨k, n.val, fits⟩

theorem convert_int_iff : (ValueType.int k).convert v = some t ↔ IntegerAs k v t := by
  by_cases integer : v.IsInteger
  · obtain ⟨n, resolved⟩ := integer
    rw [convert_of_int k resolved, Value.ofInt?_eq_some_iff]
    constructor
    · rintro ⟨fits, same⟩
      exact ⟨n, fits, resolved, same⟩
    · rintro ⟨m, fits, resolved_too, same⟩
      cases resolved.symm.trans resolved_too
      exact ⟨fits, same⟩
  · rw [convert_of_not_int k integer]
    exact ⟨nofun, fun ⟨n, _, resolved, _⟩ => absurd ⟨n, resolved⟩ integer⟩

theorem IntegerAs.compare_equal (same : IntegerAs k v t) : v.compare t .equal = .ok true := by
  obtain ⟨n, fits, resolved, rfl⟩ := same
  have target : (Value.int ⟨k, n.val, fits⟩).resolved = .int ⟨k, n.val, fits⟩ := rfl
  rw [Value.compare_equal, resolved, target, Value.compareResolved_int]
  exact congrArg Except.ok (decide_eq_true rfl)

theorem IntegerAs.back (same : IntegerAs k v t) (integer : v.resolved = .int n) :
    (ValueType.int n.kind).convert t = some (.int n) := by
  obtain ⟨m, fits, resolved, rfl⟩ := same
  cases integer.symm.trans resolved
  exact convert_int_iff.mpr ⟨⟨k, n.val, fits⟩, n.inRange, rfl, rfl⟩

theorem integerAs_of_narrow (narrowed : (ValueType.int k).narrow v = some t) : IntegerAs k v t := by
  obtain ⟨same_kind, same⟩ := Option.ite_none_right_eq_some.mp narrowed
  cases resolved : v.resolved with
  | int n =>
    rw [resolved] at same_kind same
    cases same_kind
    cases same
    exact ⟨n, n.inRange, resolved, rfl⟩
  | _ =>
    rw [resolved] at same_kind
    cases same_kind

end ValueType

namespace DataSource

variable {source : DataSource} {v t : Value}

theorem query_of_converted (name : String) (h : Handle)
    (converted : source.param.convert v = some t) :
    source.query name h v = ((source.answer h t).result.mapError .query,
      ⟨h.calls ++ [⟨name, t⟩], h.cancelled || (source.answer h t).cancels⟩) := by
  rw [query, converted]

theorem query_of_refused (name : String) (h : Handle) (refused : source.param.convert v = none) :
    source.query name h v = (.error (.paramType source.param v.resolved.kind), h) := by
  rw [query, refused]

end DataSource

/-- The values that convert to a kind of integers are those that resolve to an integer in its range,
and they become this integer. It compares as equal to the value that it comes from, and converts
back to it. What narrows to the kind converts to the same. A source of such a parameter is called
once, with the converted integer; where there is none, it is not called, and the error has both the
wanted kind and the one that was found. -/
theorem integers_convert_exactly (k : IntKind) (v : Value) :
    (∀ t, (ValueType.int k).convert v = some t ↔ ValueType.IntegerAs k v t) ∧
    (∀ t, (ValueType.int k).convert v = some t → v.compare t .equal = .ok true ∧
      ∀ n, v.resolved = .int n → (ValueType.int n.kind).convert t = some (.int n)) ∧
    (∀ t, (ValueType.int k).narrow v = some t → (ValueType.int k).convert v = some t) ∧
    ∀ (source : DataSource) (name : String) (h : Handle), source.param = .int k →
      (∀ t, ValueType.IntegerAs k v t →
        source.query name h v = ((source.answer h t).result.mapError .query,
          ⟨h.calls ++ [⟨name, t⟩], h.cancelled || (source.answer h t).cancels⟩)) ∧
      ((∀ t, ¬ ValueType.IntegerAs k v t) →
        source.query name h v = (.error (.paramType (.int k) v.resolved.kind), h) ∧
        (SourceError.paramType (.int k) v.resolved.kind).message =
          "cannot convert params of type " ++ v.resolved.kind.text ++ " to " ++ k.text) := by
  refine ⟨fun t => ValueType.convert_int_iff, fun t converted => ?_, fun t narrowed => ?_,
    fun source name h param => ⟨fun t same => ?_, fun none_fits => ⟨?_, rfl⟩⟩⟩
  · have same := ValueType.convert_int_iff.mp converted
    exact ⟨same.compare_equal, fun n integer => same.back integer⟩
  · exact ValueType.convert_int_iff.mpr (ValueType.integerAs_of_narrow narrowed)
  · exact DataSource.query_of_converted name h (param ▸ ValueType.convert_int_iff.mpr same)
  · have refused : (ValueType.int k).convert v = none :=
      Option.eq_none_iff_forall_ne_some.mpr fun t converted =>
        none_fits t (ValueType.convert_int_iff.mp converted)
    rw [← param] at refused ⊢
    exact DataSource.query_of_refused name h refused

/-- The greatest signed integer of 64 bits converts between both families and back, and the next one
is no signed integer any more. -/
theorem integers_convert_exactly_seam :
    let greatest : FixedInt := ⟨.u64, 9223372036854775807, by decide⟩
    let next : FixedInt := ⟨.u64, 9223372036854775808, by decide⟩
    let v : Value := .ref (.ref (.int greatest))
    let t : Value := .int ⟨.i64, 9223372036854775807, by decide⟩
    let source : DataSource := ⟨.int .i64, .any, fun _ v => ⟨.ok v, true⟩⟩
    (source.param = .int .i64 ∧ ValueType.IntegerAs .i64 v t ∧ v.resolved = .int greatest ∧
      (ValueType.int .i64).narrow t = some t ∧ ∀ t, ¬ ValueType.IntegerAs .i64 (.int next) t) ∧
    (ValueType.int .i64).convert v = some t ∧ v.compare t .equal = .ok true ∧
    (ValueType.int .u64).convert t = some (.int greatest) ∧
    (ValueType.int .i64).convert t = some t ∧
    source.query "limit" .fresh v = (.ok t, ⟨[⟨"limit", t⟩], true⟩) ∧
    source.query "limit" .fresh (.int next) =
      (.error (.paramType (.int .i64) (.int .u64)), .fresh) := by
  intro greatest next v t source
  have same : ValueType.IntegerAs .i64 v t := ⟨greatest, by decide, rfl, rfl⟩
  have narrowed : (ValueType.int .i64).narrow t = some t := rfl
  have beyond : ∀ t, ¬ ValueType.IntegerAs .i64 (.int next) t := by
    rintro _ ⟨n, fits, resolved, -⟩
    cases resolved
    exact absurd fits (by decide)
  obtain ⟨converts, lossless, -, called⟩ := integers_convert_exactly .i64 v
  obtain ⟨equal, back⟩ := lossless t ((converts t).mpr same)
  obtain ⟨-, -, narrow, -⟩ := integers_convert_exactly .i64 t
  obtain ⟨-, -, -, refused⟩ := integers_convert_exactly .i64 (.int next)
  exact ⟨⟨rfl, same, rfl, narrowed, beyond⟩, (converts t).mpr same, equal, back greatest rfl,
    narrow t narrowed, (called source "limit" .fresh rfl).1 t same,
    ((refused source "limit" .fresh rfl).2 beyond).1⟩

end RulePipeline
