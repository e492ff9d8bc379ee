import RulePipeline.Proofs.Run.Sequence

/-! Where in the tree a run is. A level comes to one of its nodes when the nodes in front of it
ask for a next one, and whatever else ends a level happens in front of such a node or at it; a
branch goes on with one of its pipelines as a level of its own. -/
namespace RulePipeline

/-- The run of a level from `s` comes to its node at `index`, with `t` in front of it. -/
structure Arrives (reg : Registry) (s : State) (nodes : Pipeline) (index : Nat) (node : Node)
    (t : State) : Prop where
  before : Pipeline.run reg (nodes.take index) s = (.ok .next, t)
  present : nodes[index]? = some node

namespace Arrives

variable {reg : Registry} {s t : State} {nodes : Pipeline} {index : Nat} {node : Node}

/-- From there, the run is that of the node and of what stands behind it. -/
theorem run (arrives : Arrives reg s nodes index node t) :
    nodes.run reg s = runFrom reg index t (node :: nodes.drop (index + 1)) := by
  obtain ⟨bound, here⟩ := List.getElem?_eq_some_iff.mp arrives.present
  have cut : nodes = nodes.take index ++ node :: nodes.drop (index + 1) := by
    rw [← here, ← List.drop_eq_getElem_cons bound, List.take_append_drop]
  have places : 0 + (nodes.take index).length = index := by
    rw [List.length_take]; omega
  have before : runFrom reg 0 s (nodes.take index) = (.ok .next, t) := arrives.before
  calc nodes.run reg s
      = runFrom reg 0 s (nodes.take index ++ node :: nodes.drop (index + 1)) := by
        rw [← cut]; rfl
    _ = runFrom reg index t (node :: nodes.drop (index + 1)) := by
        rw [runFrom_append, before, places, Outcome.andThen_next]

theorem run_cancelled (arrives : Arrives reg s nodes index node t)
    (cancelled : t.handle.cancelled = true) : nodes.run reg s = (.error .cancelled, t) := by
  rw [arrives.run, runFrom_cancelled _ _ _ _ cancelled]

theorem run_live (arrives : Arrives reg s nodes index node t)
    (live : t.handle.cancelled = false) :
    nodes.run reg s = ((node.run reg t).placed index node.kind).andThen fun u =>
      runFrom reg (index + 1) u (nodes.drop (index + 1)) := by
  rw [arrives.run, runFrom_live _ _ _ _ live]

end Arrives

/-- A level that does not ask for a next node ends in front of one of its nodes or at it. -/
theorem runFrom_ended {reg : Registry} {index : Nat} {s : State} {nodes : List Node}
    (ended : ∀ t, runFrom reg index s nodes ≠ (.ok .next, t)) :
    ∃ k node t, runFrom reg index s (nodes.take k) = (.ok .next, t) ∧ nodes[k]? = some node ∧
      (t.handle.cancelled = true ∨ ∀ u, node.run reg t ≠ (.ok .next, u)) := by
  induction nodes generalizing index s with
  | nil => exact absurd rfl (ended s)
  | cons node rest ih =>
    cases live : s.handle.cancelled with
    | true => exact ⟨0, node, s, rfl, rfl, .inl live⟩
    | false =>
      by_cases goes : ∃ u, node.run reg s = (.ok .next, u)
      · obtain ⟨u, goes⟩ := goes
        have skip (more : List Node) :
            runFrom reg index s (node :: more) = runFrom reg (index + 1) u more := by
          rw [runFrom_live _ _ _ _ live, goes, Outcome.placed_ok, Outcome.andThen_next]
        rw [skip] at ended
        obtain ⟨k, last, t, before, present, ends⟩ := ih ended
        exact ⟨k + 1, last, t, by rw [List.take_succ_cons, skip, before], present, ends⟩
      · exact ⟨0, node, s, rfl, rfl, .inr fun u next => goes ⟨u, next⟩⟩

/-- A level fails because it is cancelled in front of one of its nodes, or because that node
fails; then the error names the node. -/
theorem Pipeline.run_error {reg : Registry} {nodes : Pipeline} {s u : State} {e : RunError}
    (failed : nodes.run reg s = (.error e, u)) :
    ∃ index node t, Arrives reg s nodes index node t ∧
      ((t.handle.cancelled = true ∧ e = .cancelled ∧ u = t) ∨
        (t.handle.cancelled = false ∧ ∃ cause, node.run reg t = (.error cause, u) ∧
          e = .node index node.kind cause)) := by
  have ended (t : State) : runFrom reg 0 s nodes ≠ (.ok .next, t) := by
    intro next
    cases failed.symm.trans next
  obtain ⟨index, node, t, before, present, ends⟩ := runFrom_ended ended
  have arrives : Arrives reg s nodes index node t := ⟨before, present⟩
  refine ⟨index, node, t, arrives, ?_⟩
  cases live : t.handle.cancelled with
  | true =>
    have outcome := failed.symm.trans (arrives.run_cancelled live)
    cases outcome
    exact .inl ⟨rfl, rfl, rfl⟩
  | false =>
    have ends : ∀ v, node.run reg t ≠ (.ok .next, v) :=
      ends.resolve_left fun cancelled => by simp [live] at cancelled
    have outcome := failed.symm.trans (arrives.run_live live)
    refine .inr ⟨rfl, ?_⟩
    cases ran : node.run reg t with
    | mk result v =>
      rw [ran] at outcome
      cases result with
      | error cause =>
        cases outcome
        exact ⟨cause, rfl, rfl⟩
      | ok flow =>
        cases flow with
        | next => exact absurd ran (ends v)
        | ret value => cases outcome
        | stop => cases outcome

/-- The pipeline with which a branch goes on, where it has one for the side that its condition
selects. -/
def Node.taken? (context : Context) : Node → Option Pipeline
  | .branch condition onTrue onFalse _ =>
    match condition.eval context with
    | .ok outcome => if outcome then onTrue else onFalse
    | .error _ => none
  | _ => none

/-- Whether what the node's own pipelines write is dropped behind it. -/
def Node.isolates : Node → Bool
  | .branch _ _ _ isolated => isolated
  | _ => false

theorem Node.branch_of_taken {context : Context} {node : Node} {inner : Pipeline}
    (taken : node.taken? context = some inner) :
    ∃ condition onTrue onFalse isolated outcome,
      node = .branch condition onTrue onFalse isolated ∧ condition.eval context = .ok outcome ∧
        (if outcome then onTrue else onFalse) = some inner := by
  cases node with
  | branch condition onTrue onFalse isolated =>
    cases evaluated : condition.eval context with
    | error e => simp [taken?, evaluated] at taken
    | ok outcome =>
      refine ⟨condition, onTrue, onFalse, isolated, outcome, rfl, evaluated, ?_⟩
      simpa [taken?, evaluated] using taken
  | _ => cases taken

theorem Node.side_of_outside {context : Context} {condition : Condition} {outcome : Bool}
    {onTrue onFalse : Option Pipeline} {isolated : Bool}
    (outside : Node.taken? context (.branch condition onTrue onFalse isolated) = none)
    (evaluated : condition.eval context = .ok outcome) :
    (if outcome then onTrue else onFalse) = none := by
  simpa only [taken?, evaluated] using outside

@[simp] theorem State.leave_self (s : State) (isolated : Bool) : s.leave s isolated = s := by
  cases isolated <;> rfl

@[simp] theorem State.leave_handle (entry exit : State) (isolated : Bool) :
    (entry.leave exit isolated).handle = exit.handle := by
  cases isolated <;> rfl

@[simp] theorem State.leave_isolated (entry exit : State) :
    entry.leave exit true = ⟨entry.context, exit.handle⟩ := rfl

theorem Node.run_branch {reg : Registry} {s : State} {condition : Condition} {outcome : Bool}
    (onTrue onFalse : Option Pipeline) (isolated : Bool)
    (evaluated : condition.eval s.context = .ok outcome) :
    (Node.branch condition onTrue onFalse isolated).run reg s =
      ((runSide reg s outcome (if outcome then onTrue else onFalse)).1,
        s.leave (runSide reg s outcome (if outcome then onTrue else onFalse)).2 isolated) := by
  cases outcome <;> simp only [Node.run, evaluated] <;> rfl

/-- A branch without a pipeline to go on with fails and leaves the state as it is. The error is
the same in all states in which its condition comes to the same. -/
theorem Node.run_branch_outside {context : Context} {condition : Condition}
    {onTrue onFalse : Option Pipeline} {isolated : Bool}
    (outside : Node.taken? context (.branch condition onTrue onFalse isolated) = none) :
    ∃ e, ∀ (reg : Registry) (s : State), condition.eval s.context = condition.eval context →
      (Node.branch condition onTrue onFalse isolated).run reg s = (.error e, s) := by
  cases evaluated : condition.eval context with
  | error e =>
    refine ⟨.condition e, fun reg s same => ?_⟩
    simp only [Node.run, same]
  | ok outcome =>
    refine ⟨.noPipeline outcome, fun reg s same => ?_⟩
    rw [Node.run_branch _ _ _ same, Node.side_of_outside outside evaluated]
    exact congrArg (Prod.mk _) (State.leave_self s isolated)

/-- A branch that has the selected pipeline does what this does, and so fails with its errors as
they are. -/
theorem Node.run_taken {reg : Registry} {s : State} {node : Node} {inner : Pipeline}
    (taken : node.taken? s.context = some inner) :
    node.run reg s = ((inner.run reg s).1, s.leave (inner.run reg s).2 node.isolates) := by
  obtain ⟨condition, onTrue, onFalse, isolated, outcome, rfl, evaluated, side⟩ :=
    node.branch_of_taken taken
  rw [Node.run_branch _ _ _ evaluated, side]
  rfl

end RulePipeline
