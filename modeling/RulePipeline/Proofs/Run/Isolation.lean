import RulePipeline.Host
import RulePipeline.Proofs.Run.Arrival

/-! Isolated branches. The pipeline of an isolated branch runs as that of a shared one, on a
context of its own: the flow or the error and the calls are the same, and what it has written is
dropped behind the branch. -/
namespace RulePipeline

variable {reg : Registry}

/-- The flag of a branch decides about what it leaves, and about nothing else. -/
theorem Node.run_branch_eq_leave (condition : Condition) (onTrue onFalse : Option Pipeline)
    (isolated : Bool) (s : State) :
    (Node.branch condition onTrue onFalse isolated).run reg s =
      (((Node.branch condition onTrue onFalse false).run reg s).1,
        s.leave ((Node.branch condition onTrue onFalse false).run reg s).2 isolated) := by
  cases evaluated : condition.eval s.context with
  | error e => simp only [Node.run, evaluated, State.leave_self]
  | ok outcome =>
    rw [Node.run_branch _ _ _ evaluated, Node.run_branch _ _ _ evaluated]
    rfl

theorem Node.run_branch_result (condition : Condition) (onTrue onFalse : Option Pipeline)
    (isolated other : Bool) (s : State) :
    ((Node.branch condition onTrue onFalse isolated).run reg s).1 =
        ((Node.branch condition onTrue onFalse other).run reg s).1 ∧
      ((Node.branch condition onTrue onFalse isolated).run reg s).2.handle =
        ((Node.branch condition onTrue onFalse other).run reg s).2.handle := by
  rw [Node.run_branch_eq_leave _ _ _ isolated, Node.run_branch_eq_leave _ _ _ other]
  simp only [State.leave_handle, and_self]

theorem Node.run_isolated_context {node : Node} {s : State} (isolates : node.isolates = true) :
    (node.run reg s).2.context = s.context := by
  cases node with
  | branch condition onTrue onFalse isolated =>
    cases isolates
    rw [Node.run_branch_eq_leave, State.leave_isolated]
  | _ => cases isolates

/-- Inside of a branch, what the first nodes have written is there for those behind them. -/
theorem Node.run_taken_append {node : Node} {p q : Pipeline} {s t : State}
    (taken : node.taken? s.context = some (p ++ q)) (before : p.run reg s = (.ok .next, t)) :
    node.run reg s =
      (((q.run reg t).shift p.length).1, s.leave (q.run reg t).2 node.isolates) := by
  rw [Node.run_taken taken, Pipeline.run_append, before]
  rfl

/-- Behind one of its nodes a level goes on from what this node leaves. -/
theorem Pipeline.run_behind {a b : Pipeline} {node : Node} {s t u : State}
    (before : a.run reg s = (.ok .next, t)) (live : t.handle.cancelled = false)
    (next : node.run reg t = (.ok .next, u)) :
    Pipeline.run reg (a ++ node :: b) s = (b.run reg u).shift (a.length + 1) := by
  have alone : Pipeline.run reg [node] t = (.ok .next, u) := by
    rw [Pipeline.run, runFrom_live _ _ _ _ live, next]
    rfl
  have front : Pipeline.run reg (a ++ [node]) s = (.ok .next, u) := by
    rw [Pipeline.run_append, before, Outcome.andThen_next, alone, Outcome.shift_ok]
  rw [← List.singleton_append, ← List.append_assoc, Pipeline.run_append, front,
    Outcome.andThen_next, List.length_append, List.length_singleton]

/-- The flag of a branch changes neither its outcome nor its calls. An isolated branch leaves the
context that it has found, however it ends: inside, each node runs from what those in front of it
have left, and the nodes behind the branch run from the context in front of it. -/
theorem Node.run_branch_isolation (reg : Registry) :
    (∀ condition onTrue onFalse isolated s,
      ((Node.branch condition onTrue onFalse !isolated).run reg s).1 =
          ((Node.branch condition onTrue onFalse isolated).run reg s).1 ∧
        ((Node.branch condition onTrue onFalse !isolated).run reg s).2.handle =
          ((Node.branch condition onTrue onFalse isolated).run reg s).2.handle) ∧
    (∀ condition onTrue onFalse s,
      ((Node.branch condition onTrue onFalse true).run reg s).2.context = s.context) ∧
    (∀ condition onTrue onFalse p q s t,
      Node.taken? s.context (.branch condition onTrue onFalse true) = some (p ++ q) →
      Pipeline.run reg p s = (.ok .next, t) →
      (Node.branch condition onTrue onFalse true).run reg s =
        (((Pipeline.run reg q t).shift p.length).1,
          ⟨s.context, (Pipeline.run reg q t).2.handle⟩)) ∧
    ∀ a b condition onTrue onFalse s t u,
      Pipeline.run reg a s = (.ok .next, t) → t.handle.cancelled = false →
      (Node.branch condition onTrue onFalse true).run reg t = (.ok .next, u) →
      Pipeline.run reg (a ++ .branch condition onTrue onFalse true :: b) s =
        (Pipeline.run reg b ⟨t.context, u.handle⟩).shift (a.length + 1) := by
  have restored (condition : Condition) (onTrue onFalse : Option Pipeline) (s : State) :
      ((Node.branch condition onTrue onFalse true).run reg s).2.context = s.context :=
    Node.run_isolated_context rfl
  refine ⟨?_, restored, ?_, ?_⟩
  · intro condition onTrue onFalse isolated s
    exact Node.run_branch_result condition onTrue onFalse _ _ s
  · intro condition onTrue onFalse p q s t taken before
    rw [Node.run_taken_append taken before]
    rfl
  · intro a b condition onTrue onFalse s t u before live next
    have same : u = ⟨t.context, u.handle⟩ := by
      rw [← restored condition onTrue onFalse t, next]
    rw [Pipeline.run_behind before live next, ← same]

/-- The second node in the branch reads what the first has saved. The return behind the branch
asks for the same name, and there is no such value. -/
theorem run_branch_isolation_dropped_value :
    let reg : Registry := ⟨.ofList [("echo", .echo)], .empty⟩
    let save (name : String) (value : Term) : Node := .query ⟨"echo", value, name⟩
    let p : Pipeline := [save "inside" (.literal (.bool true))]
    let q : Pipeline := [save "copy" (.read "inside")]
    let branch (isolated : Bool) : Node := .branch (.all []) (some (p ++ q)) none isolated
    let a : Pipeline := [save "first" (.literal .nil)]
    let b : Pipeline := [.ret (.read "inside")]
    let first : Context := SortedMap.empty.insert "first" .nil
    let calls : List Call := [⟨"echo", .nil⟩, ⟨"echo", .bool true⟩, ⟨"echo", .bool true⟩]
    let s : State := ⟨.empty, .fresh⟩
    let t : State := ⟨first, ⟨[⟨"echo", .nil⟩], false⟩⟩
    let inside : State := ⟨first.insert "inside" (.bool true), ⟨calls.take 2, false⟩⟩
    let u : State := ⟨first, ⟨calls, false⟩⟩
    (Pipeline.run reg a s = (.ok .next, t) ∧ t.handle.cancelled = false ∧
      (branch true).taken? t.context = some (p ++ q) ∧
      Pipeline.run reg p t = (.ok .next, inside) ∧ (branch true).run reg t = (.ok .next, u)) ∧
    ((branch false).run reg t).2.handle = ((branch true).run reg t).2.handle ∧
    ((branch true).run reg t).2.context = first ∧
    (branch true).run reg t =
      (((Pipeline.run reg q inside).shift p.length).1,
        ⟨first, (Pipeline.run reg q inside).2.handle⟩) ∧
    Pipeline.run reg (a ++ branch true :: b) s =
      (.error (.node 2 .ret (.term (.notInContext "inside"))), u) := by
  intro reg save p q branch a b first calls s t inside u
  obtain ⟨flipped, restored, within, behind⟩ := Node.run_branch_isolation reg
  have before : Pipeline.run reg a s = (.ok .next, t) := rfl
  have taken : (branch true).taken? t.context = some (p ++ q) := rfl
  have saved : Pipeline.run reg p t = (.ok .next, inside) := rfl
  have next : (branch true).run reg t = (.ok .next, u) := rfl
  exact ⟨⟨before, rfl, taken, saved, next⟩, (flipped _ _ _ true t).2, restored _ _ _ t,
    within _ _ _ p q t inside taken saved, behind a b _ _ _ s t u before rfl next⟩

end RulePipeline
