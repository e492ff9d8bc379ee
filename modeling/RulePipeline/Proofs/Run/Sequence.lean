import RulePipeline.Run

/-! Levels put together from shorter ones. The nodes of a level run one after another, so that
the run of a level can be cut in front of any of its nodes; only the places in its errors depend
on where the cut is. -/
namespace RulePipeline

/-- The error as a level reports it that has `n` more nodes in front. -/
def RunError.shift (n : Nat) : RunError → RunError
  | .node index kind cause => .node (n + index) kind cause
  | e => e

namespace Outcome

/-- Goes on from the state that is left, where the next node is asked for. -/
def andThen (o : Outcome) (next : State → Outcome) : Outcome :=
  match o with
  | (.ok .next, t) => next t
  | ended => ended

def shift (n : Nat) (o : Outcome) : Outcome := (o.1.mapError (.shift n), o.2)

/-- What a level makes of the outcome of one of its nodes. -/
def placed (index : Nat) (kind : NodeKind) (o : Outcome) : Outcome :=
  (o.1.mapError (.node index kind), o.2)

@[simp] theorem andThen_next (t : State) (next : State → Outcome) :
    andThen (.ok .next, t) next = next t := rfl

@[simp] theorem andThen_error (e : RunError) (t : State) (next : State → Outcome) :
    andThen (.error e, t) next = (.error e, t) := rfl

theorem andThen_ended {flow : Flow} (last : flow ≠ .next) (t : State) (next : State → Outcome) :
    andThen (.ok flow, t) next = (.ok flow, t) := by
  cases flow with
  | next => exact absurd rfl last
  | ret v => rfl
  | stop => rfl

@[simp] theorem placed_ok (index : Nat) (kind : NodeKind) (flow : Flow) (t : State) :
    placed index kind (.ok flow, t) = (.ok flow, t) := rfl

@[simp] theorem placed_error (index : Nat) (kind : NodeKind) (e : RunError) (t : State) :
    placed index kind (.error e, t) = (.error (.node index kind e), t) := rfl

@[simp] theorem shift_ok (n : Nat) (flow : Flow) (t : State) :
    shift n (.ok flow, t) = (.ok flow, t) := rfl

@[simp] theorem shift_error (n : Nat) (e : RunError) (t : State) :
    shift n (.error e, t) = (.error (e.shift n), t) := rfl

/-- An outcome asks for the next node, or it stands whatever would come next. -/
theorem next_or_ended (o : Outcome) :
    (∃ t, o = (.ok .next, t)) ∨ ∀ next, o.andThen next = o := by
  obtain ⟨result, t⟩ := o
  cases result with
  | error e => exact .inr fun _ => rfl
  | ok flow =>
    cases flow with
    | next => exact .inl ⟨t, rfl⟩
    | ret v => exact .inr fun _ => rfl
    | stop => exact .inr fun _ => rfl

theorem andThen_assoc (o : Outcome) (f g : State → Outcome) :
    (o.andThen f).andThen g = o.andThen fun t => (f t).andThen g := by
  rcases o.next_or_ended with ⟨t, rfl⟩ | ended
  · rfl
  · rw [ended, ended, ended]

theorem shift_andThen (n : Nat) (o : Outcome) (next : State → Outcome) :
    (o.andThen next).shift n = (o.shift n).andThen fun t => (next t).shift n := by
  obtain ⟨result, t⟩ := o
  cases result with
  | error e => rfl
  | ok flow => cases flow <;> rfl

theorem shift_placed (n index : Nat) (kind : NodeKind) (o : Outcome) :
    (o.placed index kind).shift n = o.placed (n + index) kind := by
  obtain ⟨result, t⟩ := o
  cases result <;> rfl

end Outcome

@[simp] theorem runFrom_nil (reg : Registry) (index : Nat) (s : State) :
    runFrom reg index s [] = (.ok .next, s) := rfl

theorem runFrom_cancelled (reg : Registry) (index : Nat) {s : State} (node : Node)
    (rest : List Node) (cancelled : s.handle.cancelled = true) :
    runFrom reg index s (node :: rest) = (.error .cancelled, s) := by
  simp [runFrom, cancelled]

theorem runFrom_live (reg : Registry) (index : Nat) {s : State} (node : Node)
    (rest : List Node) (live : s.handle.cancelled = false) :
    runFrom reg index s (node :: rest) =
      ((node.run reg s).placed index node.kind).andThen fun t =>
        runFrom reg (index + 1) t rest := by
  simp only [runFrom, live, Bool.false_eq_true, if_false]
  obtain ⟨result, t⟩ := node.run reg s
  cases result with
  | error e => rfl
  | ok flow => cases flow <;> rfl

theorem runFrom_append (reg : Registry) (index : Nat) (s : State) (p q : List Node) :
    runFrom reg index s (p ++ q) =
      (runFrom reg index s p).andThen fun t => runFrom reg (index + p.length) t q := by
  induction p generalizing index s with
  | nil => rfl
  | cons node rest ih =>
    cases live : s.handle.cancelled with
    | true => simp only [List.cons_append, runFrom_cancelled _ _ _ _ live, Outcome.andThen_error]
    | false =>
      have places : index + (node :: rest).length = index + 1 + rest.length := by
        rw [List.length_cons]; omega
      rw [List.cons_append, runFrom_live _ _ _ _ live, runFrom_live _ _ _ _ live,
        Outcome.andThen_assoc, places]
      simp only [ih]

/-- Where a level starts to count shows only in the places of its errors. -/
theorem runFrom_shift (reg : Registry) (n index : Nat) (s : State) (nodes : List Node) :
    runFrom reg (n + index) s nodes = (runFrom reg index s nodes).shift n := by
  induction nodes generalizing index s with
  | nil => rfl
  | cons node rest ih =>
    cases live : s.handle.cancelled with
    | true => simp only [runFrom_cancelled _ _ _ _ live, Outcome.shift_error, RunError.shift]
    | false =>
      rw [runFrom_live _ _ _ _ live, runFrom_live _ _ _ _ live, Outcome.shift_andThen,
        Outcome.shift_placed]
      simp only [Nat.add_assoc, ih]

/-- One pipeline after another. The second runs where the first asks for a next node, and from
what the first has left; its places count on from those of the first. -/
theorem Pipeline.run_append (reg : Registry) (p q : Pipeline) (s : State) :
    Pipeline.run reg (p ++ q) s =
      (p.run reg s).andThen fun t => (q.run reg t).shift p.length := by
  have counted (t : State) : runFrom reg (0 + p.length) t q = (q.run reg t).shift p.length := by
    rw [Nat.add_comm, runFrom_shift]
    rfl
  simp only [Pipeline.run, runFrom_append, counted]

end RulePipeline
