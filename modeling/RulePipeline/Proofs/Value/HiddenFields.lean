import Mathlib.Data.List.Forall2
import RulePipeline.Definition.Compile
import RulePipeline.Json.Writer
import RulePipeline.Proofs.Except
import RulePipeline.Proofs.SortedMap

/-! Hidden fields. Values that differ only in what their hidden fields hold cannot be told apart: a
getter finds the same in both, or fails on both, and they have the same document. So neither can
contexts of such values, however many terms are evaluated in them one after another. Only getters
of the host can look into hidden fields, and no definition can name one. -/
namespace RulePipeline

namespace Value

mutual

/-- The value with nil in place of what its hidden fields hold, at any depth. -/
def shown : Value → Value
  | .list items => .list (shownItems items)
  | .map entries => .map (shownEntries entries)
  | .record typeName fields => .record typeName (shownFields fields)
  | .ref target => .ref target.shown
  | v => v

def shownItems : List Value → List Value
  | [] => []
  | v :: rest => v.shown :: shownItems rest

def shownEntries : List (String × Value) → List (String × Value)
  | [] => []
  | (name, v) :: rest => (name, v.shown) :: shownEntries rest

def shownFields : List (Field Value) → List (Field Value)
  | [] => []
  | ⟨name, v, exported⟩ :: rest =>
    ⟨name, if exported then v.shown else .nil, exported⟩ :: shownFields rest

end

/-- The values are the same but for what their hidden fields hold. -/
def Similar (v w : Value) : Prop := v.shown = w.shown

theorem shownItems_eq (items : List Value) : shownItems items = items.map shown := by
  induction items with
  | nil => rfl
  | cons v rest ih => rw [shownItems, ih, List.map_cons]

theorem shownEntries_eq (entries : List (String × Value)) :
    shownEntries entries = Entries.map shown entries := by
  induction entries with
  | nil => rfl
  | cons e rest ih => rw [shownEntries, ih, Entries.map_cons]

/-- A hidden field may hold anything. -/
def SimilarField (f g : Field Value) : Prop :=
  f.name = g.name ∧ f.exported = g.exported ∧ (f.exported → f.value.Similar g.value)

theorem shownFields_eq_iff {fields others : List (Field Value)} :
    shownFields fields = shownFields others ↔ List.Forall₂ SimilarField fields others := by
  induction fields generalizing others with
  | nil => cases others <;> simp [shownFields]
  | cons f rest ih =>
    cases others with
    | nil => simp [shownFields]
    | cons g others =>
      obtain ⟨m, v, p⟩ := f
      obtain ⟨n, w, q⟩ := g
      rw [shownFields, shownFields, List.cons.injEq, ih, List.forall₂_cons, Field.mk.injEq]
      -- A field that is hidden on one side and exported on the other is similar to none.
      cases p <;> cases q <;> simp [SimilarField, Similar]

theorem similar_record {s t : String} {fields others : List (Field Value)} :
    (record s fields).Similar (record t others) ↔
      s = t ∧ List.Forall₂ SimilarField fields others := by
  rw [Similar, shown, shown, record.injEq, shownFields_eq_iff]

/-- The field of a name is the one that it was, shown. -/
theorem find?_shownFields (name : String) (fields : List (Field Value)) :
    (shownFields fields).find? (·.name = name) = (fields.find? (·.name = name)).map fun f =>
      ⟨f.name, if f.exported then f.value.shown else .nil, f.exported⟩ := by
  induction fields with
  | nil => rfl
  | cons f rest ih =>
    rw [shownFields, List.find?_cons, List.find?_cons]
    by_cases here : f.name = name
    · simp [here]
    · simp [here, ih]

mutual

theorem toJson_shown : (v : Value) → v.shown.toJson = v.toJson
  | .nil | .bool _ | .int _ | .f32 _ | .f64 _ | .string _ | .host _ => rfl
  | .list items => by rw [shown, toJson, toJsonItems_shown items, toJson]
  | .map entries => by rw [shown, toJson, toJsonEntries_shown entries, toJson]
  | .record _ fields => by rw [shown, toJson, toJsonFields_shown fields, toJson]
  | .ref target => by rw [shown, toJson, toJson_shown target, toJson]

theorem toJsonItems_shown : (items : List Value) →
    toJsonItems (shownItems items) = toJsonItems items
  | [] => rfl
  | v :: rest => by
    rw [shownItems, toJsonItems, toJson_shown v, toJsonItems_shown rest, toJsonItems]

theorem toJsonEntries_shown : (entries : List (String × Value)) →
    toJsonEntries (shownEntries entries) = toJsonEntries entries
  | [] => rfl
  | (_, v) :: rest => by
    rw [shownEntries, toJsonEntries, toJson_shown v, toJsonEntries_shown rest, toJsonEntries]

theorem toJsonFields_shown : (fields : List (Field Value)) →
    toJsonFields (shownFields fields) = toJsonFields fields
  | [] => rfl
  | ⟨_, v, true⟩ :: rest => by
    simp only [shownFields, toJsonFields, if_true, toJson_shown v, toJsonFields_shown rest]
  | ⟨_, _, false⟩ :: rest => by
    simp only [shownFields, toJsonFields, Bool.false_eq_true, if_false, toJsonFields_shown rest]

end

theorem Similar.toJson_eq {v w : Value} (similar : v.Similar w) : v.toJson = w.toJson := by
  rw [← toJson_shown v, similar, toJson_shown]

@[simp]
theorem isNil_shown (v : Value) : v.shown.isNil = v.isNil := by
  cases v <;> rfl

/-- Both fail, and with the same error, or both give values, and these are similar. -/
inductive SimilarResults {ε : Type} : Except ε Value → Except ε Value → Prop where
  | error (e : ε) : SimilarResults (.error e) (.error e)
  | ok {v w : Value} (similar : v.Similar w) : SimilarResults (.ok v) (.ok w)

theorem similarResults_iff {ε : Type} {x y : Except ε Value} :
    SimilarResults x y ↔ shown <$> x = shown <$> y := by
  constructor
  · intro results
    cases results with
    | error e => rfl
    | ok similar => exact congrArg Except.ok similar
  · intro same
    cases x with
    | error e =>
      cases y with
      | error e' =>
        cases same
        exact .error e
      | ok w => cases same
    | ok v =>
      cases y with
      | error e => cases same
      | ok w => exact .ok (Except.ok.inj same)

theorem SimilarResults.mapError {ε δ : Type} {x y : Except ε Value} (results : SimilarResults x y)
    (f : ε → δ) : SimilarResults (x.mapError f) (y.mapError f) := by
  cases results with
  | error e => exact .error (f e)
  | ok similar => exact .ok similar

theorem SimilarResults.bind {ε : Type} {x y : Except ε Value} {f g : Value → Except ε Value}
    (results : SimilarResults x y)
    (later : ∀ {v w}, v.Similar w → SimilarResults (f v) (g w)) :
    SimilarResults (x >>= f) (y >>= g) := by
  cases results with
  | error e => exact .error e
  | ok similar => exact later similar

end Value

namespace Getter

theorem found_map (f : Value → Value) (o : Option Value) : found (o.map f) = f <$> found o := by
  cases o <;> rfl

theorem project_shown : (v key : Value) → project v.shown key = Value.shown <$> project v key
  | .nil, _ | .host _, _ => rfl
  | .bool _, _ | .int _, _ | .f32 _, _ | .f64 _, _ | .string _, _ => rfl
  | .list items, key => by
    rw [Value.shown, project, project, Value.shownItems_eq]
    cases indexKey key with
    | error e => rfl
    | ok i =>
      have element : (items.map Value.shown)[i]? = items[i]?.map Value.shown := List.getElem?_map ..
      exact (congrArg found element).trans (found_map _ _)
  | .map entries, key => by
    rw [Value.shown, project, project, Value.shownEntries_eq]
    cases nameKey key with
    | error e => rfl
    | ok name => exact (congrArg found (Entries.find?_map _ _ _)).trans (found_map _ _)
  | .record _ fields, key => by
    rw [Value.shown, project, project]
    cases nameKey key with
    | error e => rfl
    | ok name =>
      simp only [bind, Except.bind, Value.find?_shownFields]
      cases fields.find? (·.name = name) with
      | none => rfl
      | some f =>
        -- Whether the field is exported is asked before its value is looked at.
        obtain ⟨_, v, exported⟩ := f
        cases exported <;> rfl
  | .ref target, key => by rw [Value.shown, project, project, project_shown target key]

theorem walk_shown (keys : List Value) (v : Value) :
    walk keys v.shown = Value.shown <$> walk keys v := by
  induction keys generalizing v with
  | nil => rfl
  | cons key rest ih =>
    rw [walk, walk]
    cases requireKey (some key) with
    | error e => rfl
    | ok key =>
      calc (project v.shown key >>= walk rest)
          = (project v key >>= fun w => walk rest w.shown) := by
            rw [project_shown, bind_map_left]
        _ = (project v key >>= fun w => Value.shown <$> walk rest w) := bind_congr ih
        _ = Value.shown <$> (project v key >>= walk rest) := by rw [map_bind]

theorem step_shown (v : Value) (key : Option Value) :
    get .step v.shown key = Value.shown <$> get .step v key := by
  rw [get, get, Value.isNil_shown]
  cases v.isNil with
  | true => rfl
  | false =>
    cases requireKey key with
    | error e => rfl
    | ok key => exact project_shown v key

theorem path_shown (v : Value) (key : Option Value) :
    get .path v.shown key = Value.shown <$> get .path v key := by
  rw [get, get, Value.isNil_shown]
  cases v.isNil with
  | true => rfl
  | false =>
    cases requireKey key with
    | error e => rfl
    | ok key =>
      simp only [bind, Except.bind]
      cases (steps key).isEmpty with
      | true => rfl
      | false => exact walk_shown (steps key) v

/-- The getter is none that a host has brought. -/
def Builtin : Getter → Prop
  | .step | .path | .constant _ => True
  | .host _ => False

theorem get_similar {v w : Value} (similar : v.Similar w) {g : Getter} (builtin : g.Builtin)
    (key : Option Value) : Value.SimilarResults (g.get v key) (g.get w key) := by
  cases g with
  | step =>
    apply Value.similarResults_iff.mpr
    rw [← step_shown v, similar, step_shown]
  | path =>
    apply Value.similarResults_iff.mpr
    rw [← path_shown v, similar, path_shown]
  | constant u => exact .ok rfl
  | host take => cases builtin

end Getter

namespace Context

/-- The same names, and similar values under each of them. -/
def Similar (c d : Context) : Prop :=
  ∀ name, Option.Rel Value.Similar (c.find? name) (d.find? name)

variable {c d : Context}

theorem Similar.shown_eq (similar : c.Similar d) : c.map Value.shown = d.map Value.shown := by
  apply SortedMap.ext_find?
  intro name
  have values := similar name
  rw [SortedMap.find?_map, SortedMap.find?_map]
  generalize c.find? name = x, d.find? name = y at values
  cases values with
  | some same => exact congrArg some same
  | none => rfl

theorem toJson_shown (c : Context) : Context.toJson (c.map Value.shown) = c.toJson := by
  have entries : (c.map Value.shown).entries = Value.shownEntries c.entries :=
    (Value.shownEntries_eq c.entries).symm
  rw [toJson, entries, Value.toJsonEntries_shown, toJson]

theorem Similar.toJson_eq (similar : c.Similar d) : c.toJson = d.toJson := by
  rw [← toJson_shown c, similar.shown_eq, toJson_shown]

theorem Similar.empty : Context.Similar .empty .empty := by
  intro name
  rw [SortedMap.find?_empty]
  exact .none

theorem Similar.insert (similar : c.Similar d) (name : String) {v w : Value}
    (values : v.Similar w) : Context.Similar (c.insert name v) (d.insert name w) := by
  intro other
  rw [SortedMap.find?_insert, SortedMap.find?_insert]
  split
  · exact .some values
  · exact similar other

end Context

namespace Term

variable {c d : Context}

theorem lookup_similar (similar : c.Similar d) (name : String) :
    Value.SimilarResults (lookup c name) (lookup d name) := by
  rw [lookup, lookup]
  split
  · exact .error _
  · have values := similar name
    generalize c.find? name = x, d.find? name = y at values
    cases values with
    | some same => exact .ok same
    | none => exact .error _

/-- The term has no getter, or one that is built in. -/
def Builtin : Term → Prop
  | .literal _ | .read _ => True
  | .project _ getter _ => getter.Builtin

theorem eval_similar (similar : c.Similar d) {t : Term} (builtin : t.Builtin) :
    Value.SimilarResults (t.eval c) (t.eval d) := by
  cases t with
  | literal v => exact .ok rfl
  | read name => exact lookup_similar similar name
  | project name getter key =>
    apply (lookup_similar similar name).bind
    intro v w values
    exact (Getter.get_similar values builtin key).mapError (TermError.getter name)

/-- The terms are evaluated one after another, each in the context that has the values of those
before it under their names. -/
def saveAll (context : Context) : List (String × Term) → Except TermError Context
  | [] => .ok context
  | (name, t) :: rest => do saveAll (context.insert name (← t.eval context)) rest

theorem saveAll_similar (similar : c.Similar d) {steps : List (String × Term)}
    (builtin : ∀ step ∈ steps, step.2.Builtin) :
    Context.toJson <$> saveAll c steps = Context.toJson <$> saveAll d steps := by
  induction steps generalizing c d with
  | nil => exact congrArg Except.ok similar.toJson_eq
  | cons step rest ih =>
    obtain ⟨name, t⟩ := step
    obtain ⟨builtin_here, builtin_later⟩ := List.forall_mem_cons.mp builtin
    have results := eval_similar similar builtin_here
    rw [saveAll, saveAll]
    generalize t.eval c = x, t.eval d = y at results
    cases results with
    | error e => rfl
    | ok values => exact ih (similar.insert name values) builtin_later

end Term

/-- What hidden fields hold cannot be read out, neither by a getter nor by a term, nor from the
document of the context when any number of terms have saved what they read. This holds for all
getters but those of the host. -/
theorem hidden_fields_unreadable :
    (∀ v w : Value, v.Similar w → v.toJson = w.toJson ∧
      ∀ g : Getter, g.Builtin → ∀ key : Option Value,
        Value.SimilarResults (g.get v key) (g.get w key)) ∧
    ∀ c d : Context, c.Similar d →
      (∀ t : Term, t.Builtin → Value.SimilarResults (t.eval c) (t.eval d)) ∧
      ∀ steps : List (String × Term), (∀ step ∈ steps, step.2.Builtin) →
        Context.toJson <$> Term.saveAll c steps = Context.toJson <$> Term.saveAll d steps := by
  constructor
  · intro v w similar
    exact ⟨similar.toJson_eq, fun g builtin => Getter.get_similar similar builtin⟩
  · intro c d similar
    exact ⟨fun t builtin => Term.eval_similar similar builtin,
      fun steps builtin => Term.saveAll_similar similar builtin⟩

/-- Two accounts with different secrets, each behind a reference to a list. The secrets themselves
cannot be reached, and what terms save of either account is the same. -/
theorem hidden_fields_unreadable_pin :
    let account (pin : String) : Value := .ref (.list [.record "Account"
      [⟨"owner", .string "ada", true⟩, ⟨"pin", .string pin, false⟩]])
    let context (pin : String) : Context := SortedMap.empty.insert "account" (account pin)
    let first : Value := .int ⟨.i64, 0, by decide⟩
    let pinOf (v : Value) : Except GetterError Value :=
      Getter.path.get v (some (.list [first, .string "pin"]))
    let owner : Term := .project "account" .path (some (.list [first, .string "owner"]))
    let steps : List (String × Term) :=
      [("first", .project "account" .step (some first)), ("owner", owner)]
    ((account "1234").Similar (account "9876") ∧ account "1234" ≠ account "9876" ∧
      (context "1234").Similar (context "9876") ∧ Getter.path.Builtin ∧ owner.Builtin ∧
      ∀ step ∈ steps, step.2.Builtin) ∧
    (pinOf (account "1234") = .error .fieldIsHidden ∧
      pinOf (account "9876") = .error .fieldIsHidden) ∧
    owner.eval (context "1234") = .ok (.string "ada") ∧
    (∃ w, owner.eval (context "9876") = .ok w ∧ (Value.string "ada").Similar w) ∧
    Context.toJson <$> Term.saveAll (context "1234") steps =
      Context.toJson <$> Term.saveAll (context "9876") steps := by
  intro account context first pinOf owner steps
  have similar : (account "1234").Similar (account "9876") := rfl
  have different : account "1234" ≠ account "9876" := by simp [account]
  have similar_contexts : (context "1234").Similar (context "9876") :=
    Context.Similar.empty.insert "account" similar
  have hidden : pinOf (account "1234") = .error .fieldIsHidden := rfl
  have found : owner.eval (context "1234") = .ok (.string "ada") := rfl
  have builtin : ∀ step ∈ steps, step.2.Builtin := by
    simp [steps, owner, Term.Builtin, Getter.Builtin]
  obtain ⟨values, contexts⟩ := hidden_fields_unreadable
  obtain ⟨terms, saved⟩ := contexts _ _ similar_contexts
  have pins : Value.SimilarResults (pinOf (account "1234")) (pinOf (account "9876")) :=
    (values _ _ similar).2 .path trivial _
  have owners := terms owner trivial
  rw [hidden] at pins
  rw [found] at owners
  refine ⟨⟨similar, different, similar_contexts, trivial, trivial, builtin⟩, ⟨hidden, ?_⟩, found,
    ?_, saved steps builtin⟩
  · generalize pinOf (account "9876") = y at pins
    cases pins
    rfl
  · generalize owner.eval (context "9876") = y at owners
    cases owners with
    | ok same => exact ⟨_, rfl, same⟩

/-- Takes the field under a name out of a record, be it hidden or not. -/
def Getter.anyField : Getter := .host fun input key => do
  let name ← nameKey (← requireKey key)
  match input with
  | .record _ fields => found ((fields.find? (·.name = name)).map (·.value))
  | _ => .error .inputNotProjectable

/-- A getter of the host is given the whole record, and what it takes out of a hidden field is the
value of the term. Where fields are exported, it is not enough that their values are equal: zeros of
both signs are, but not their texts. -/
theorem hidden_fields_read_by_host :
    let account (pin : String) : Value := .record "Account" [⟨"pin", .string pin, false⟩]
    let context (pin : String) : Context := SortedMap.empty.insert "account" (account pin)
    let pinOf : Term := .project "account" .anyField (some (.string "pin"))
    let balance (negative : Bool) : Value := .f64 (.zero negative)
    ((context "1234").Similar (context "9876") ∧
      pinOf.eval (context "1234") = .ok (.string "1234") ∧
      pinOf.eval (context "9876") = .ok (.string "9876") ∧
      ¬ Value.SimilarResults (pinOf.eval (context "1234")) (pinOf.eval (context "9876"))) ∧
    (balance false).equal (balance true) ∧ (balance false).toJson.compact = "0.0" ∧
      (balance true).toJson.compact = "-0.0" := by
  intro account context pinOf balance
  have similar : (account "1234").Similar (account "9876") := rfl
  have one : pinOf.eval (context "1234") = .ok (.string "1234") := rfl
  have other : pinOf.eval (context "9876") = .ok (.string "9876") := rfl
  have told_apart :
      ¬ Value.SimilarResults (pinOf.eval (context "1234")) (pinOf.eval (context "9876")) := by
    intro results
    rw [one, other] at results
    cases results with
    | ok same => simp [Value.Similar, Value.shown] at same
  have equal : (balance false).equal (balance true) := by decide +kernel
  have texts : (balance false).toJson.compact = "0.0" ∧ (balance true).toJson.compact = "-0.0" := by
    decide +kernel
  exact ⟨⟨Context.Similar.empty.insert "account" similar, one, other, told_apart⟩, equal, texts⟩

namespace TermDef

variable {t : TermDef} {compiled : Term}

/-- A definition can only name getters that are built in. -/
theorem builtin_of_compiled (result : t.compile = .ok compiled) : compiled.Builtin := by
  cases t with
  | literal json kind =>
    obtain ⟨v, -, rfl⟩ := bind_pure_eq_ok.mp result
    trivial
  | context name getter key value =>
    cases getter with
    | none =>
      cases result
      trivial
    | some g =>
      cases g with
      | step | path =>
        cases result
        trivial
      | constant =>
        cases value with
        | none => cases result
        | some json =>
          cases result
          trivial

/-- So what a definition reads is the same, whatever hidden fields hold. -/
theorem compiled_similar (result : t.compile = .ok compiled) {c d : Context}
    (similar : c.Similar d) : Value.SimilarResults (compiled.eval c) (compiled.eval d) :=
  Term.eval_similar similar (builtin_of_compiled result)

end TermDef

end RulePipeline
