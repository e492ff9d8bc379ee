import RulePipeline.Proofs.Definition.Literal
import RulePipeline.Proofs.Value.Conversion

/-! Literals of a declared kind. Where the kind is none of floats, a literal is accepted if its
document is of this kind, and then the value is of this kind and has this document. Any other
literal is refused as it was written. -/
namespace RulePipeline

/-- Integers are of the kinds in whose range they are, and no other numbers are of these kinds. All
other documents are of a kind by their shape. -/
def Json.OfKind (j : Json) : Kind → Prop
  | .nil => j = .null
  | .bool => ∃ b, j = .bool b
  | .int k => ∃ n inRange, j = .num (.int n inRange) ∧ k.least ≤ n ∧ n ≤ k.greatest
  | .string => ∃ s, j = .str s
  | .list => ∃ items, j = .arr items
  | .map => ∃ members, j = .obj members
  | .f32 | .f64 | .record | .ref | .host => False

/-- The kinds that a document is of by its shape alone. -/
def Kind.ofShapes : List Kind := [.nil, .bool, .string, .list, .map]

theorem Kind.mem_ofShapes {kind : Kind} : kind ∈ Kind.ofShapes ↔
    kind = .nil ∨ kind = .bool ∨ kind = .string ∨ kind = .list ∨ kind = .map := by
  simp [ofShapes]

namespace Value

theorem resolved_ofJson (j : Json) : (ofJson j).resolved = ofJson j := by
  cases j with
  | num n =>
    cases n with
    | int i inRange =>
      obtain ⟨_, read, -⟩ := ofNumber_int i inRange
      rw [ofJson, read]
      rfl
    | float x finite => rfl
  | _ => rfl

theorem kind_ofJson_num (n : Json.Number) :
    (ofJson (.num n)).kind = .f64 ∨ ∃ k, (ofJson (.num n)).kind = .int k := by
  cases n with
  | int i inRange =>
    obtain ⟨m, read, -⟩ := ofNumber_int i inRange
    exact .inr ⟨m.kind, by rw [ofJson, read, Value.kind]⟩
  | float x finite => exact .inl rfl

theorem kind_ofJson_iff {j : Json} {kind : Kind} (shape : kind ∈ Kind.ofShapes) :
    (ofJson j).kind = kind ↔ j.OfKind kind := by
  rcases Kind.mem_ofShapes.mp shape with rfl | rfl | rfl | rfl | rfl
  all_goals
    cases j with
    | num n => rcases kind_ofJson_num n with found | ⟨k, found⟩ <;> simp [found, Json.OfKind]
    | _ => simp [ofJson, Value.kind, Json.OfKind]

end Value

namespace TermDef

variable {json : Json} {kind : Kind} {v : Value}

theorem literalMeaning?_shape (shape : kind ∈ Kind.ofShapes) : literalMeaning? json (some kind) =
    if (Value.ofJson json).kind = kind then some (.ofJson json) else none := by
  have narrowed {t : ValueType} (same : t.kind? = some kind) : t.narrow (.ofJson json) =
      if (Value.ofJson json).kind = kind then some (.ofJson json) else none := by
    simp only [ValueType.narrow, same, Value.resolved_ofJson]
  rcases Kind.mem_ofShapes.mp shape with rfl | rfl | rfl | rfl | rfl
  · rw [literalMeaning?]
    cases Value.ofJson json <;> simp [Value.isNil, Value.kind]
  · exact narrowed (t := .bool) rfl
  · exact narrowed (t := .string) rfl
  · exact narrowed (t := .list) rfl
  · exact narrowed (t := .map) rfl

theorem literalMeaning?_int (k : IntKind) : literalMeaning? json (some (.int k)) =
    (ValueType.int k).convert (.ofJson json) := by
  cases k <;> rfl

theorem literalMeaning?_int_iff {k : IntKind} : literalMeaning? json (some (.int k)) = some v ↔
    json.OfKind (.int k) ∧ v.kind = .int k ∧ v.toJson = json := by
  rw [literalMeaning?_int, ValueType.convert_int_iff]
  constructor
  · rintro ⟨n, fits, resolved, rfl⟩
    rw [Value.resolved_ofJson] at resolved
    obtain ⟨inRange, written⟩ := Value.jsonInt_eq n
    obtain ⟨_, written_again⟩ := Value.jsonInt_eq ⟨k, n.val, fits⟩
    have document : json = .num (.int n.val inRange) := by
      rw [← Value.toJson_ofJson json, resolved, Value.toJson, written]
    refine ⟨⟨n.val, inRange, document, fits⟩, rfl, ?_⟩
    rw [Value.toJson, written_again, document]
  · rintro ⟨⟨n, inRange, rfl, fits⟩, same_kind, same⟩
    obtain ⟨m, read, rfl, -⟩ := Value.ofNumber_int n inRange
    cases v with
    | int i =>
      obtain ⟨_, written⟩ := Value.jsonInt_eq i
      rw [Value.toJson, written] at same
      cases i
      cases same_kind
      cases same
      exact ⟨m, fits, by rw [Value.resolved_ofJson, Value.ofJson, read], rfl⟩
    | _ => cases same_kind

theorem exists_literalMeaning? (of_kind : json.OfKind kind) :
    ∃ v, literalMeaning? json (some kind) = some v ∧ v.kind = kind ∧ v.toJson = json ∧
      ((∀ k, kind ≠ .int k) → v = .ofJson json) := by
  have shaped (shape : kind ∈ Kind.ofShapes) : ∃ v, literalMeaning? json (some kind) = some v ∧
      v.kind = kind ∧ v.toJson = json ∧ ((∀ k, kind ≠ .int k) → v = .ofJson json) := by
    have same_kind := (Value.kind_ofJson_iff shape).mpr of_kind
    rw [literalMeaning?_shape shape, if_pos same_kind]
    exact ⟨_, rfl, same_kind, Value.toJson_ofJson json, fun _ => rfl⟩
  cases kind with
  | int k =>
    obtain ⟨n, inRange, rfl, fits⟩ := of_kind
    obtain ⟨_, written⟩ := Value.jsonInt_eq ⟨k, n, fits⟩
    have document : (Value.int ⟨k, n, fits⟩).toJson = .num (.int n inRange) := by
      rw [Value.toJson, written]
    have means := literalMeaning?_int_iff.mpr ⟨⟨n, inRange, rfl, fits⟩, rfl, document⟩
    exact ⟨_, means, rfl, document, fun other => absurd rfl (other k)⟩
  | f32 | f64 | record | ref | host => cases of_kind
  | _ => exact shaped (by decide)

theorem literalMeaning?_eq_none (single : kind ≠ .f32) (double : kind ≠ .f64)
    (other : ¬ json.OfKind kind) : literalMeaning? json (some kind) = none := by
  have shaped (shape : kind ∈ Kind.ofShapes) : literalMeaning? json (some kind) = none := by
    rw [literalMeaning?_shape shape, if_neg (mt (Value.kind_ofJson_iff shape).mp other)]
  cases kind with
  | int k =>
    exact Option.eq_none_iff_forall_ne_some.mpr fun v means =>
      other (literalMeaning?_int_iff.mp means).1
  | f32 => exact absurd rfl single
  | f64 => exact absurd rfl double
  | record => exact literalMeaning?_record json
  | ref | host => rfl
  | _ => exact shaped (by decide)

/-- A literal of any kind but those of floats compiles if its document is of this kind. Its value is
of this kind and has this document; lists and maps are taken over with all that is in them. In all
other cases the error has the document and the kind. -/
theorem typed_literals_exact (json : Json) {kind : Kind} (single : kind ≠ .f32)
    (double : kind ≠ .f64) :
    (json.OfKind kind → ∃ v, (TermDef.literal json (some kind)).compile = .ok (.literal v) ∧
      v.kind = kind ∧ v.toJson = json ∧ ((∀ k, kind ≠ .int k) → v = .ofJson json)) ∧
    (¬ json.OfKind kind →
      (TermDef.literal json (some kind)).compile = .error (.invalidLiteral json kind)) := by
  constructor
  · intro of_kind
    obtain ⟨v, means, same_kind, document, taken_over⟩ := exists_literalMeaning? of_kind
    refine ⟨v, ?_, same_kind, document, taken_over⟩
    rw [compile, literalValue_eq, means]
    rfl
  · intro other
    rw [compile, literalValue_eq, literalMeaning?_eq_none single double other]
    rfl

/-- The first integer that only unsigned literals can hold, and a zero that is no integer. -/
theorem typed_literals_exact_seam :
    let beyond : Json := .num (.int 9223372036854775808 (by decide))
    let zero : Json := .num (.float (.zero true) rfl)
    let items : Json := .arr [.null, beyond, zero]
    let typed (json : Json) (kind : Kind) := (TermDef.literal json (some kind)).compile
    (∀ kind ∈ [Kind.int .u64, .int .i64, .int .i8, .list], kind ≠ .f32 ∧ kind ≠ .f64) ∧
    (beyond.OfKind (.int .u64) ∧ ∃ v, typed beyond (.int .u64) = .ok (.literal v) ∧
      v.kind = .int .u64 ∧ v.toJson = beyond) ∧
    (¬ beyond.OfKind (.int .i64) ∧
      typed beyond (.int .i64) = .error (.invalidLiteral beyond (.int .i64))) ∧
    (¬ zero.OfKind (.int .i8) ∧ typed zero (.int .i8) = .error (.invalidLiteral zero (.int .i8))) ∧
    items.OfKind .list ∧ typed items .list = .ok (.literal (.ofJson items)) := by
  intro beyond zero items typed
  have fits : beyond.OfKind (.int .u64) := ⟨9223372036854775808, by decide, rfl, by decide⟩
  have too_great : ¬ beyond.OfKind (.int .i64) := by
    rintro ⟨n, _, same, -, small⟩
    simp only [beyond, Json.num.injEq, Json.Number.int.injEq] at same
    exact absurd (same ▸ small) (by decide)
  have no_integer : ¬ zero.OfKind (.int .i8) := by
    rintro ⟨n, _, same, -⟩
    simp [zero] at same
  have list : items.OfKind .list := ⟨_, rfl⟩
  obtain ⟨v, compiled, same_kind, document, -⟩ :=
    (typed_literals_exact beyond (by decide) (by decide)).1 fits
  obtain ⟨w, compiled_list, -, -, taken_over⟩ :=
    (typed_literals_exact items (by decide) (by decide)).1 list
  cases taken_over fun k => Kind.noConfusion
  exact ⟨by decide, ⟨fits, v, compiled, same_kind, document⟩,
    ⟨too_great, (typed_literals_exact beyond (by decide) (by decide)).2 too_great⟩,
    ⟨no_integer, (typed_literals_exact zero (by decide) (by decide)).2 no_integer⟩,
    list, compiled_list⟩

end TermDef

end RulePipeline
