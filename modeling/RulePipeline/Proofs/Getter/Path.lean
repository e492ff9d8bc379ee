import RulePipeline.Getter

/-! Paths as single steps, one after another. A path asks for its key before it looks at what the
steps so far have found, while a single step looks at its input first. So the two can only differ
in what they report when a step without a key meets nil. -/
namespace RulePipeline

theorem Value.list?_eq_some {v : Value} {items : List Value} :
    v.list? = some items ↔ v.resolved = .list items := by
  unfold list?
  cases v.resolved <;> simp

namespace Getter

variable {v key : Value} {keys : List Value}

theorem requireKey_of_nil (nothing : key.resolved.isNil) :
    requireKey (some key) = .error .keyIsEmpty := by
  rw [requireKey, if_pos nothing]

theorem requireKey_of_key (something : key.resolved.isNil = false) :
    requireKey (some key) = .ok key := by
  rw [requireKey, something]
  rfl

/-- One level down. The key is asked for before the input is looked at. -/
def firstStep (v : Value) (key : Option Value) : Except GetterError Value :=
  requireKey key >>= project v

theorem get_step (v : Value) (key : Option Value) :
    step.get v key = if v.isNil then .error .inputIsNil else firstStep v key := by
  rw [get]
  cases v.isNil <;> rfl

theorem walk_cons (v key : Value) (keys : List Value) :
    walk (key :: keys) v = firstStep v (some key) >>= walk keys := by
  rw [walk, firstStep, bind_assoc]

theorem firstStep_eq_get_or (v key : Value) : firstStep v (some key) = step.get v (some key) ∨
    key.resolved.isNil ∧ firstStep v (some key) = .error .keyIsEmpty ∧
      step.get v (some key) = .error .inputIsNil := by
  rw [get_step]
  cases v with
  | nil =>
    cases nothing : key.resolved.isNil with
    | true =>
      rw [firstStep, requireKey_of_nil nothing]
      exact .inr ⟨rfl, rfl, rfl⟩
    | false =>
      rw [firstStep, requireKey_of_key nothing]
      exact .inl rfl
  | _ => exact .inl rfl

/-- One level down for each key, every time from what the last one has found. -/
def descend (v : Value) (keys : List Value) : Except GetterError Value :=
  keys.foldlM (fun v key => step.get v (some key)) v

theorem descend_cons (v key : Value) (keys : List Value) :
    descend v (key :: keys) = step.get v (some key) >>= fun w => descend w keys :=
  List.foldlM_cons

theorem descend_append (v : Value) (p q : List Value) :
    descend v (p ++ q) = descend v p >>= fun w => descend w q :=
  List.foldlM_append

theorem walk_eq_descend_or (keys : List Value) (v : Value) : walk keys v = descend v keys ∨
    (∃ key ∈ keys, key.resolved.isNil) ∧
      walk keys v = .error .keyIsEmpty ∧ descend v keys = .error .inputIsNil := by
  induction keys generalizing v with
  | nil => exact .inl rfl
  | cons key rest ih =>
    rw [walk_cons, descend_cons]
    rcases firstStep_eq_get_or v key with same | ⟨nothing, fails, fails_there⟩
    -- both go on from what this step has found
    · rw [same]
      cases step.get v (some key) with
      | error e => exact .inl rfl
      | ok w =>
        rcases ih w with same | ⟨⟨other, member, nothing⟩, fails, fails_there⟩
        · exact .inl same
        · exact .inr ⟨⟨other, List.mem_cons_of_mem _ member, nothing⟩, fails, fails_there⟩
    · rw [fails, fails_there]
      exact .inr ⟨⟨key, List.mem_cons_self, nothing⟩, rfl, rfl⟩

theorem path_of_list (list : key.list? = some keys) (some_keys : keys ≠ []) :
    path.get v (some key) = if v.isNil then .error .inputIsNil else walk keys v := by
  have something : key.resolved.isNil = false := by
    rw [Value.list?_eq_some.mp list]
    rfl
  have not_empty : keys.isEmpty = false := by simpa using some_keys
  rw [get, requireKey_of_key something]
  cases v.isNil with
  | true => rfl
  | false => simp [bind, Except.bind, steps, list, not_empty]

theorem path_eq_descend_or (list : key.list? = some keys) (some_keys : keys ≠ []) :
    path.get v (some key) = descend v keys ∨
      (∃ key ∈ keys, key.resolved.isNil) ∧
        path.get v (some key) = .error .keyIsEmpty ∧ descend v keys = .error .inputIsNil := by
  rw [path_of_list list some_keys]
  cases missing : v.isNil with
  | false => exact walk_eq_descend_or keys v
  | true =>
    obtain ⟨first, rest, rfl⟩ := List.exists_cons_of_ne_nil some_keys
    refine .inl ?_
    rw [descend_cons, get, missing]
    rfl

theorem path_eq_descend (list : key.list? = some keys) (some_keys : keys ≠ [])
    (all_keys : ∀ k ∈ keys, ¬ k.resolved.isNil) : path.get v (some key) = descend v keys := by
  rcases path_eq_descend_or list some_keys with same | ⟨⟨k, member, nothing⟩, -⟩
  · exact same
  · exact absurd nothing (all_keys k member)

theorem path_singleton (v key : Value) :
    path.get v (some (.list [key])) = step.get v (some key) := by
  have list : (Value.list [key]).list? = some [key] := rfl
  have sole : walk [key] v = firstStep v (some key) := (walk_cons v key []).trans (bind_pure _)
  rw [path_of_list list (List.cons_ne_nil _ _), sole, get_step]

theorem path_of_single (single : key.list? = none) :
    path.get v (some key) = path.get v (some (.list [key])) := by
  have sole : steps key = [key] := by
    rw [steps, single]
    rfl
  have list : (Value.list [key]).list? = some [key] := rfl
  rw [path_of_list list (List.cons_ne_nil _ _), get]
  cases v.isNil with
  | true => rfl
  | false =>
    cases nothing : key.resolved.isNil with
    | true =>
      rw [requireKey_of_nil nothing, walk_cons, firstStep, requireKey_of_nil nothing]
      rfl
    | false =>
      rw [requireKey_of_key nothing]
      simp [bind, Except.bind, sole]

/-- A path finds what single steps find one after another, and fails where they fail. If each step
has a key it also fails with the same error, and can be cut in two at any place. A key that is no
list is a single step. -/
theorem path_descends :
    (∀ (v key : Value) (keys : List Value), key.list? = some keys → keys ≠ [] →
      (∀ w, path.get v (some key) = .ok w ↔ descend v keys = .ok w) ∧
      ((∀ k ∈ keys, ¬ k.resolved.isNil) → path.get v (some key) = descend v keys)) ∧
    (∀ v key : Value, key.list? = none →
      path.get v (some key) = path.get v (some (.list [key])) ∧
      path.get v (some key) = step.get v (some key)) ∧
    (∀ v : Value, path.get v none = step.get v none) ∧
    ∀ (v : Value) (p q : List Value), p ≠ [] → q ≠ [] → (∀ k ∈ p ++ q, ¬ k.resolved.isNil) →
      path.get v (some (.list (p ++ q))) =
        path.get v (some (.list p)) >>= fun w => path.get w (some (.list q)) := by
  refine ⟨fun v key keys list some_keys => ⟨fun w => ?_, path_eq_descend list some_keys⟩,
    fun v key single => ?_, fun v => ?_, fun v p q some_p some_q all_keys => ?_⟩
  · rcases path_eq_descend_or (v := v) list some_keys with same | ⟨-, fails, fails_there⟩
    · rw [same]
    · simp [fails, fails_there]
  · rw [path_of_single single]
    exact ⟨rfl, path_singleton v key⟩
  · rw [get, get]
    cases v.isNil <;> rfl
  · have ⟨keys_p, keys_q⟩ := List.forall_mem_append.mp all_keys
    rw [path_eq_descend rfl (List.append_ne_nil_of_left_ne_nil some_p q) all_keys, descend_append,
      path_eq_descend rfl some_p keys_p]
    exact bind_congr fun w => (path_eq_descend rfl some_q keys_q).symm

/-- The first order is nil. A path into it fails as single steps do, unless the next step has no key:
then the path reports the key, and the single step its input. -/
theorem path_descends_into_orders :
    let nine : Value := .int ⟨.i64, 9, by decide⟩
    let first : Value := .int ⟨.u8, 0, by decide⟩
    let second : Value := .ref (.int ⟨.u8, 1, by decide⟩)
    let shop : Value := .map [("orders", .ref (.list [.nil, .map [("total", nine)]]))]
    let into (order : Value) : List Value := [order, .string "total"]
    let key : Value := .ref (.list (.string "orders" :: into second))
    let blank : List Value := [.string "orders", first, .nil]
    (key.list? = some (.string "orders" :: into second) ∧
      (∀ k ∈ .string "orders" :: into first, ¬ k.resolved.isNil) ∧
      (Value.string "orders").list? = none) ∧
    descend shop (.string "orders" :: into second) = .ok nine ∧
    path.get shop (some (.string "orders")) = step.get shop (some (.string "orders")) ∧
    path.get shop (some (.list ([.string "orders"] ++ into first))) =
      (path.get shop (some (.list [.string "orders"])) >>= fun w =>
        path.get w (some (.list (into first)))) ∧
    descend shop (.string "orders" :: into first) = .error .inputIsNil ∧
    path.get shop (some (.list blank)) = .error .keyIsEmpty ∧
    descend shop blank = .error .inputIsNil := by
  intro nine first second shop into key blank
  have list : key.list? = some (.string "orders" :: into second) := rfl
  have all_keys : ∀ k ∈ .string "orders" :: into first, ¬ k.resolved.isNil := by
    simp [into, first, Value.resolved, Value.isNil]
  have single : (Value.string "orders").list? = none := rfl
  have found : path.get shop (some key) = .ok nine := rfl
  have failed : path.get shop (some (.list (.string "orders" :: into first))) =
      .error .inputIsNil := rfl
  obtain ⟨paths, singles, -, cuts⟩ := path_descends
  have fails_alike :=
    (paths shop (.list (.string "orders" :: into first)) _ rfl (List.cons_ne_nil _ _)).2 all_keys
  exact ⟨⟨list, all_keys, single⟩,
    ((paths shop key _ list (List.cons_ne_nil _ _)).1 nine).mp found,
    (singles shop _ single).2,
    cuts shop _ _ (List.cons_ne_nil _ _) (List.cons_ne_nil _ _) all_keys,
    fails_alike.symm.trans failed, rfl, rfl⟩

end Getter

end RulePipeline
