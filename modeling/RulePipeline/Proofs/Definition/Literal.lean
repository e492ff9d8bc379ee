import RulePipeline.Definition.Compile

/-! Literals of a declared kind. The value of a literal is found by the type of the values of its
kind, and has this kind. No document stands for a record, a reference or a host object. -/
namespace RulePipeline

theorem Value.ofInt?_kind {kind : IntKind} {n : Int} {v : Value}
    (fits : Value.ofInt? kind n = some v) : v.kind = .int kind := by
  obtain ⟨i, fixed, rfl⟩ := Option.map_eq_some_iff.mp fits
  unfold FixedInt.ofInt? at fixed
  split at fixed
  · cases fixed
    rfl
  · cases fixed

namespace ValueType

/-- The type of the values of a kind, if they have one. -/
def ofKind? (kind : Kind) : Option ValueType := all.find? fun t => t.kind? = some kind

theorem kind?_of_ofKind? {kind : Kind} {t : ValueType} (found : ofKind? kind = some t) :
    t.kind? = some kind := by
  simpa using List.find?_some found

theorem narrow_kind {t : ValueType} {v w : Value} {kind : Kind} (typed : t.kind? = some kind)
    (narrowed : t.narrow v = some w) : w.kind = kind := by
  simp only [narrow, typed] at narrowed
  split at narrowed
  · rename_i same
    cases narrowed
    exact same
  · cases narrowed

theorem convert_kind {t : ValueType} {v w : Value} {kind : Kind} (typed : t.kind? = some kind)
    (converted : t.convert v = some w) : w.kind = kind := by
  cases t with
  | int k =>
    cases typed
    obtain ⟨n, _, fits⟩ := Option.bind_eq_some_iff.mp converted
    exact Value.ofInt?_kind fits
  | f32 =>
    cases typed
    obtain ⟨x, _, rfl⟩ := Option.map_eq_some_iff.mp converted
    rfl
  | f64 =>
    cases typed
    obtain ⟨x, _, rfl⟩ := Option.map_eq_some_iff.mp converted
    rfl
  | _ => exact narrow_kind typed converted

end ValueType

namespace TermDef

/-- The value of a literal, converted to the declared kind if there is one. Nothing but nil
converts to nil. -/
def literalMeaning? (json : Json) : Option Kind → Option Value
  | none => some (.ofJson json)
  | some .nil => if (Value.ofJson json).isNil then some .nil else none
  | some kind => (ValueType.ofKind? kind).bind fun t => t.convert (.ofJson json)

theorem literalMeaning?_kind {json : Json} {kind : Kind} {v : Value}
    (means : literalMeaning? json (some kind) = some v) : v.kind = kind := by
  have of_type (bound : (ValueType.ofKind? kind).bind (·.convert (.ofJson json)) = some v) :
      v.kind = kind := by
    obtain ⟨t, found, converted⟩ := Option.bind_eq_some_iff.mp bound
    exact ValueType.convert_kind (ValueType.kind?_of_ofKind? found) converted
  cases kind with
  | nil =>
    obtain ⟨_, same⟩ := Option.ite_none_right_eq_some.mp means
    cases same
    rfl
  | _ => exact of_type means

theorem ofJson_kind_ne_record (json : Json) : (Value.ofJson json).resolved.kind ≠ .record := by
  cases json with
  | num n =>
    cases n with
    | int i inRange =>
      simp only [Value.ofJson, Value.ofNumber, Value.ofInt?]
      cases FixedInt.ofInt? .i64 i <;> cases FixedInt.ofInt? .u64 i <;> exact Kind.noConfusion
    | float x finite => exact Kind.noConfusion
  | _ => exact Kind.noConfusion

theorem literalMeaning?_record (json : Json) : literalMeaning? json (some .record) = none := by
  have narrowed : ValueType.narrow .record (.ofJson json) = none :=
    if_neg (ofJson_kind_ne_record json)
  exact narrowed

theorem literalType?_eq_ofKind? {kind : Kind} (ne_record : kind ≠ .record) :
    literalType? kind = ValueType.ofKind? kind := by
  cases kind with
  | int k => cases k <;> rfl
  | record => exact absurd rfl ne_record
  | _ => rfl

/-- A literal compiles to its value, or it is reported with its document and the declared kind. -/
theorem literalValue_eq (json : Json) (kind : Kind) :
    literalValue json (some kind) =
      match literalMeaning? json (some kind) with
      | some v => .ok v
      | none => .error (.invalidLiteral json kind) := by
  by_cases record : kind = .record
  · subst record
    rw [literalMeaning?_record]
    rfl
  · simp only [literalValue, literalType?_eq_ofKind? record]
    cases kind with
    | int k => cases k <;> rfl
    | record => exact absurd rfl record
    | nil =>
      have untyped : ValueType.ofKind? .nil = none := rfl
      cases isNil : (Value.ofJson json).isNil <;> simp [literalMeaning?, untyped, isNil]
    | _ => rfl

end TermDef

end RulePipeline
