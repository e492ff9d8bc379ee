import RulePipeline.Proofs.Getter.Path

/-! Getters on references. A reference is followed to the value at its end, so that a getter finds
through it what it finds in that value. It only shows where nothing is at its end: whether the input
itself is nil is asked before the key is, and whether it refers to nil is asked after that. -/
namespace RulePipeline

theorem Value.isNil_iff {v : Value} : v.isNil ↔ v = .nil := by
  cases v <;> simp [isNil]

namespace Getter

variable {g : Getter} {v : Value} {key : Option Value}

theorem project_resolved : (v key : Value) → project v.resolved key = project v key
  | .ref target, key => project_resolved target key
  | .nil, _ | .bool _, _ | .int _, _ | .f32 _, _ | .f64 _, _ | .string _, _ => rfl
  | .list _, _ | .map _, _ | .record _ _, _ | .host _, _ => rfl

theorem project_of_nil (nothing : v.resolved.isNil) (key : Value) :
    project v key = .error .inputIsNil := by
  rw [← project_resolved, Value.isNil_iff.mp nothing]
  rfl

/-- The key of the first step down. On an empty path there is none. -/
def firstKey? (g : Getter) (key : Option Value) : Option Value :=
  match g with
  | .path => key.bind fun k => (steps k).head?
  | _ => key

/-- The keys of the steps behind the first. -/
def laterKeys (g : Getter) (key : Option Value) : List Value :=
  match g with
  | .path => ((key.map steps).getD []).tail
  | _ => []

/-- There is no key for the first step, or it is nil. -/
def lacksKey (g : Getter) (key : Option Value) : Bool := (g.firstKey? key).all (·.resolved.isNil)

theorem steps_of_nil {key : Value} (nothing : key.resolved.isNil) : steps key = [key] := by
  rw [steps, Value.list?, Value.isNil_iff.mp nothing]
  rfl

theorem get_nil (looks : g = .step ∨ g = .path) (key : Option Value) :
    g.get .nil key = .error .inputIsNil := by
  rcases looks with rfl | rfl <;> rfl

/-- A getter that looks at its input takes a first step, and then the rest of its way. -/
theorem get_of_present (looks : g = .step ∨ g = .path) (present : v.isNil = false)
    (key : Option Value) :
    g.get v key = firstStep v (g.firstKey? key) >>= walk (g.laterKeys key) := by
  rcases looks with rfl | rfl
  · rw [get_step, present]
    exact (bind_pure _).symm
  · rw [get, present]
    cases key with
    | none => rfl
    | some key =>
      rw [firstKey?, laterKeys, Option.bind_some, Option.map_some, Option.getD_some]
      cases nothing : key.resolved.isNil with
      | true =>
        rw [requireKey_of_nil nothing, steps_of_nil nothing, List.head?_cons, firstStep,
          requireKey_of_nil nothing]
        rfl
      | false =>
        rw [requireKey_of_key nothing]
        simp only [bind, Except.bind]
        cases steps key with
        | nil => rfl
        | cons first later => exact walk_cons v first later

theorem firstStep_resolved (v : Value) (key : Option Value) :
    firstStep v.resolved key = firstStep v key := by
  rw [firstStep, firstStep]
  exact bind_congr fun k => project_resolved v k

theorem firstStep_of_nil (nothing : v.resolved.isNil) (key : Option Value) :
    firstStep v key =
      .error (if key.all (·.resolved.isNil) then .keyIsEmpty else .inputIsNil) := by
  rw [firstStep]
  cases key with
  | none => rfl
  | some k =>
    cases nothing_there : k.resolved.isNil with
    | true => simp [requireKey_of_nil nothing_there, nothing_there, bind, Except.bind]
    | false =>
      simp [requireKey_of_key nothing_there, nothing_there, project_of_nil nothing, bind,
        Except.bind]

section Input

variable (looks : g = .step ∨ g = .path)

include looks

theorem get_resolved (something : v.resolved.isNil = false) (key : Option Value) :
    g.get v key = g.get v.resolved key := by
  have present : v.isNil = false := by
    cases v with
    | nil => exact something
    | _ => rfl
  rw [get_of_present looks present, get_of_present looks something, firstStep_resolved]

theorem get_ref_of_nil (nothing : v.resolved.isNil) (key : Option Value) : g.get (.ref v) key =
    .error (if g.lacksKey key then .keyIsEmpty else .inputIsNil) := by
  have nothing_there : (Value.ref v).resolved.isNil := nothing
  rw [get_of_present looks rfl, firstStep_of_nil nothing_there]
  rfl

theorem get_ref_of_present (present : v.isNil = false) (key : Option Value) :
    g.get (.ref v) key = g.get v key := by
  rw [get_of_present looks rfl, get_of_present looks present, ← firstStep_resolved,
    Value.resolved_ref, firstStep_resolved]

theorem get_ref_iff (v : Value) (key : Option Value) :
    g.get (.ref v) key = g.get v key ↔ ¬ (v.isNil ∧ g.lacksKey key) := by
  cases nothing : v.isNil with
  | false => simp [get_ref_of_present looks nothing]
  | true =>
    cases Value.isNil_iff.mp nothing
    rw [get_ref_of_nil looks rfl, get_nil looks]
    cases g.lacksKey key <;> simp

end Input

section Key

variable {k l : Value} (same : k.resolved = l.resolved)

include same

theorem project_key : (v : Value) → project v k = project v l
  | .ref target => project_key target
  | .list _ => by rw [project, project, indexKey, indexKey, same]
  | .map _ => by rw [project, project, nameKey, nameKey, Value.string?, Value.string?, same]
  | .record _ _ => by rw [project, project, nameKey, nameKey, Value.string?, Value.string?, same]
  | .nil | .bool _ | .int _ | .f32 _ | .f64 _ | .string _ | .host _ => rfl

theorem firstStep_key (v : Value) : firstStep v (some k) = firstStep v (some l) := by
  rw [firstStep, firstStep]
  cases nothing : l.resolved.isNil with
  | true => rw [requireKey_of_nil nothing, requireKey_of_nil (same ▸ nothing)]
  | false =>
    rw [requireKey_of_key nothing, requireKey_of_key (same ▸ nothing)]
    exact project_key same v

theorem steps_key : steps k = steps l ∨ steps k = [k] ∧ steps l = [l] := by
  unfold steps Value.list?
  rw [same]
  cases l.resolved <;> simp

theorem get_key (looks : g = .step ∨ g = .path) (v : Value) :
    g.get v (some k) = g.get v (some l) := by
  have first : firstStep v (some k) = firstStep v (some l) := firstStep_key same v
  cases missing : v.isNil with
  | true =>
    cases Value.isNil_iff.mp missing
    rw [get_nil looks, get_nil looks]
  | false =>
    rw [get_of_present looks missing, get_of_present looks missing]
    rcases looks with rfl | rfl
    · exact congrArg (· >>= walk []) first
    · simp only [firstKey?, laterKeys, Option.bind_some, Option.map_some, Option.getD_some]
      rcases steps_key same with list | ⟨single, single_there⟩
      · rw [list]
      · rw [single, single_there]
        exact congrArg (· >>= walk []) first

end Key

/-- What is found through references is what is found in the value at their end. An empty reference
is reported like nil, unless there is no key for the first step: then it is the key that is
reported, and for nil it is the input all the same. No other reference makes a difference, neither
around the input nor around the key. -/
theorem get_through_references (looks : g = .step ∨ g = .path) :
    (∀ (v : Value) (key : Option Value), v.resolved.isNil = false →
      g.get v key = g.get v.resolved key) ∧
    (∀ key, g.get .nil key = .error .inputIsNil) ∧
    (∀ (v : Value) (key : Option Value), v.resolved.isNil → g.get (.ref v) key =
      .error (if g.lacksKey key then .keyIsEmpty else .inputIsNil)) ∧
    (∀ (v : Value) (key : Option Value),
      g.get (.ref v) key = g.get v key ↔ ¬ (v.isNil ∧ g.lacksKey key)) ∧
    ∀ v k l : Value, k.resolved = l.resolved → g.get v (some k) = g.get v (some l) :=
  ⟨fun _ key something => get_resolved looks something key, get_nil looks,
    fun _ key nothing => get_ref_of_nil looks nothing key, get_ref_iff looks,
    fun v _ _ same => get_key same looks v⟩

/-- An order behind two references, on a path that is behind one itself. An empty reference is as
good behind another one, but not as good as nil: an empty path into it reports the path. -/
theorem get_through_references_to_orders :
    let order : Value := .map [("paid", .bool true)]
    let order_there : Value := .ref (.ref order)
    let path_to_paid : Value := .list [.string "paid"]
    (order_there.resolved.isNil = false ∧ (Value.ref .nil).resolved.isNil ∧
      (Value.ref path_to_paid).resolved = path_to_paid.resolved) ∧
    path.get order_there (some (.ref path_to_paid)) = .ok (.bool true) ∧
    path.get (.ref (.ref .nil)) (some path_to_paid) = .error .inputIsNil ∧
    path.get (.ref (.ref .nil)) (some (.list [])) = .error .keyIsEmpty ∧
    path.get (.ref (.ref .nil)) (some (.list [])) = path.get (.ref .nil) (some (.list [])) ∧
    path.get (.ref .nil) (some (.list [])) ≠ path.get .nil (some (.list [])) := by
  intro order order_there path_to_paid
  obtain ⟨resolves, -, empties, only, keys⟩ := get_through_references (.inr rfl : path = .step ∨ _)
  have found : path.get order (some path_to_paid) = .ok (.bool true) := rfl
  refine ⟨⟨rfl, rfl, rfl⟩, ?_, empties (.ref .nil) _ rfl, empties (.ref .nil) _ rfl,
    (only (.ref .nil) _).mpr (by decide), fun same => (only .nil _).mp same (by decide)⟩
  rw [keys order_there (.ref path_to_paid) path_to_paid rfl, resolves order_there _ rfl]
  exact found

/-- Without a key, an empty reference and nil are told apart. -/
theorem get_empty_reference_without_key : step.get (.ref .nil) none = .error .keyIsEmpty ∧
    step.get .nil none = .error .inputIsNil := ⟨rfl, rfl⟩

end Getter

end RulePipeline
