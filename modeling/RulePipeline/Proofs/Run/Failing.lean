import RulePipeline.Proofs.Except
import RulePipeline.Proofs.Run.Arrival

/-! How a run fails. A node raises an error of its own in front of its only write, and so leaves
the context as it was; a branch passes on the error of the pipeline it goes on with. Each level
puts the place of the failing node around the error, unless it is cancelled between two nodes. -/
namespace RulePipeline

/-- The errors of a node, with `context` in front of it, that do not come from a pipeline inside
of it. -/
inductive Node.Raises (context : Context) : Node → RunError → Prop where
  | queryTerm : Raises context (.query q) (.term e)
  | sourceNotFound : Raises context (.query q) (.sourceNotFound q.source)
  | source : Raises context (.query q) (.source q.source e)
  | returned : Raises context (.ret value) (.term e)
  | filterTerm : Raises context (.filter f) (.term e)
  | filterCondition : Raises context (.filter f) (.condition e)
  | filterKind {k : Kind} : Raises context (.filter f) (.notIterable k)
  | aggregatorNotFound : Raises context (.fold f) (.aggregatorNotFound f.aggregator)
  | aggregation : Raises context (.fold f) (.aggregation f.aggregator e)
  | foldTerm : Raises context (.fold f) (.term e)
  | foldKind {k : Kind} : Raises context (.fold f) (.notIterable k)
  | branchCondition : condition.eval context = .error e →
      Raises context (.branch condition onTrue onFalse isolated) (.condition e)
  | noPipeline : condition.eval context = .ok outcome →
      (if outcome then onTrue else onFalse) = none →
      Raises context (.branch condition onTrue onFalse isolated) (.noPipeline outcome)

/-- The run of a level ends with an error and the state that it leaves. -/
inductive Fails (reg : Registry) : State → Pipeline → RunError → State → Prop where
  | cancelled : Arrives reg s nodes index node t → t.handle.cancelled = true →
      Fails reg s nodes .cancelled t
  | itself : Arrives reg s nodes index node t → t.handle.cancelled = false →
      node.taken? t.context = none → node.run reg t = (.error cause, u) →
      Fails reg s nodes (.node index node.kind cause) u
  | inside {inner : Pipeline} : Arrives reg s nodes index node t → t.handle.cancelled = false →
      node.taken? t.context = some inner → Fails reg t inner cause exit →
      Fails reg s nodes (.node index node.kind cause) (t.leave exit node.isolates)

variable {reg : Registry} {s t : State} {context : Context} {e : RunError}

theorem evalTerm_error {term : Term} (failed : evalTerm context term = .error e) :
    ∃ cause, e = .term cause := by
  obtain ⟨cause, _, rfl⟩ := mapError_eq_error.mp failed
  exact ⟨cause, rfl⟩

theorem State.saveResult_error {name : String} {r : Except RunError Value}
    (failed : s.saveResult name r = (.error e, t)) : r = .error e ∧ t = s := by
  cases r with
  | error cause => cases failed; exact ⟨rfl, rfl⟩
  | ok v => cases failed

theorem Query.run_error {q : Query} (failed : q.run reg s = (.error e, t)) :
    Node.Raises s.context (.query q) e ∧ t.context = s.context := by
  unfold Query.run at failed
  split at failed
  · rename_i cause evaluated
    cases failed
    obtain ⟨cause, rfl⟩ := evalTerm_error evaluated
    exact ⟨.queryTerm, rfl⟩
  · split at failed
    · cases failed
      exact ⟨.sourceNotFound, rfl⟩
    · obtain ⟨response, rfl⟩ := State.saveResult_error failed
      obtain ⟨cause, _, rfl⟩ := mapError_eq_error.mp response
      exact ⟨.source, rfl⟩

theorem Filter.select_error {α : Type} {f : Filter} {valueOf : α → Value} {items : List α}
    (failed : f.select context valueOf items = .error e) :
    ∃ cause scope, f.condition.eval scope = .error cause ∧ e = .condition cause := by
  induction items with
  | nil => cases failed
  | cons a rest ih =>
    rcases bind_eq_error.mp failed with kept | ⟨kept, _, later⟩
    · have evaluated := bind_pure_eq_error.mp kept
      obtain ⟨cause, failing, rfl⟩ := mapError_eq_error.mp evaluated
      exact ⟨cause, _, failing, rfl⟩
    · have others := bind_pure_eq_error.mp later
      exact ih others

theorem Filter.result_error {f : Filter} (failed : f.result context = .error e) :
    Node.Raises context (.filter f) e := by
  rcases bind_eq_error.mp failed with evaluated | ⟨v, _, iterated⟩
  · obtain ⟨cause, rfl⟩ := evalTerm_error evaluated
    exact .filterTerm
  · split at iterated
    · have selected := bind_pure_eq_error.mp iterated
      obtain ⟨cause, _, _, rfl⟩ := select_error selected
      exact .filterCondition
    · have selected := bind_pure_eq_error.mp iterated
      obtain ⟨cause, _, _, rfl⟩ := select_error selected
      exact .filterCondition
    · cases iterated
      exact .filterKind

/-- An error of the condition is the one that it has in front of some element. -/
theorem Filter.result_condition_error {f : Filter} {cause : ConditionError}
    (failed : f.result context = .error (.condition cause)) :
    ∃ scope, f.condition.eval scope = .error cause := by
  have select {α : Type} {valueOf : α → Value} {items : List α}
      (failed : f.select context valueOf items = .error (.condition cause)) :
      ∃ scope, f.condition.eval scope = .error cause := by
    obtain ⟨_, scope, failing, same⟩ := select_error failed
    cases same
    exact ⟨scope, failing⟩
  rcases bind_eq_error.mp failed with evaluated | ⟨v, _, iterated⟩
  · obtain ⟨_, impossible⟩ := evalTerm_error evaluated
    cases impossible
  · split at iterated
    · exact select (bind_pure_eq_error.mp iterated)
    · exact select (bind_pure_eq_error.mp iterated)
    · cases iterated

theorem Fold.result_error {f : Fold} (failed : f.result reg context = .error e) :
    Node.Raises context (.fold f) e := by
  unfold Fold.result at failed
  split at failed
  · cases failed
    exact .aggregatorNotFound
  · rcases bind_eq_error.mp failed with evaluated | ⟨v, _, iterated⟩
    · obtain ⟨cause, rfl⟩ := evalTerm_error evaluated
      exact .foldTerm
    · split at iterated
      · rcases bind_eq_error.mp iterated with evaluated | ⟨_, _, folded⟩
        · obtain ⟨cause, rfl⟩ := evalTerm_error evaluated
          exact .foldTerm
        · obtain ⟨cause, _, rfl⟩ := mapError_eq_error.mp folded
          exact .aggregation
      · cases iterated
        exact .foldKind

/-- A node that does not get to a pipeline inside of it fails with an error of its own, and what
it leaves is the context that it found. -/
theorem Node.run_error_itself {node : Node} (outside : node.taken? s.context = none)
    (failed : node.run reg s = (.error e, t)) :
    node.Raises s.context e ∧ t.context = s.context := by
  cases node with
  | query q => exact Query.run_error failed
  | branch condition onTrue onFalse isolated =>
    cases evaluated : condition.eval s.context with
    | error cause =>
      simp only [Node.run, evaluated] at failed
      cases failed
      exact ⟨.branchCondition evaluated, rfl⟩
    | ok outcome =>
      have absent : (if outcome then onTrue else onFalse) = none :=
        Node.side_of_outside outside evaluated
      rw [Node.run_branch _ _ _ evaluated, absent] at failed
      simp only [runSide, State.leave_self] at failed
      cases failed
      exact ⟨.noPipeline evaluated absent, rfl⟩
  | ret value =>
    simp only [Node.run] at failed
    split at failed
    · rename_i cause evaluated
      cases failed
      obtain ⟨cause, rfl⟩ := evalTerm_error evaluated
      exact ⟨.returned, rfl⟩
    · cases failed
  | filter f =>
    obtain ⟨failed, rfl⟩ := State.saveResult_error failed
    exact ⟨f.result_error failed, rfl⟩
  | fold f =>
    obtain ⟨failed, rfl⟩ := State.saveResult_error failed
    exact ⟨f.result_error failed, rfl⟩
  | stop => cases failed

/-- A node that gets to a pipeline inside of it fails with the error of this pipeline. -/
theorem Node.run_error_inside {node : Node} {inner : Pipeline}
    (taken : node.taken? s.context = some inner) (failed : node.run reg s = (.error e, t)) :
    ∃ exit, inner.run reg s = (.error e, exit) ∧ t = s.leave exit node.isolates := by
  rw [node.run_taken taken] at failed
  cases ran : inner.run reg s with
  | mk result exit =>
    rw [ran] at failed
    cases failed
    exact ⟨exit, rfl, rfl⟩

theorem fails_of_run {nodes : Pipeline} (failed : nodes.run reg s = (.error e, t)) :
    Fails reg s nodes e t := by
  -- The error of a branch is a part of the error of its level.
  induction e generalizing nodes s t with
  | node index kind cause ih =>
    obtain ⟨_, node, u, arrives, ⟨_, impossible, _⟩ | ⟨live, _, fails, same⟩⟩ :=
      Pipeline.run_error failed
    · cases impossible
    · cases same
      cases taken : node.taken? u.context with
      | none => exact .itself arrives live taken fails
      | some inner =>
        obtain ⟨exit, inside, rfl⟩ := node.run_error_inside taken fails
        exact .inside arrives live taken (ih inside)
  | cancelled =>
    obtain ⟨_, _, _, arrives, ⟨cancelled, _, rfl⟩ | ⟨_, _, _, impossible⟩⟩ :=
      Pipeline.run_error failed
    · exact .cancelled arrives cancelled
    · cases impossible
  | _ =>
    obtain ⟨_, _, _, _, ⟨_, impossible, _⟩ | ⟨_, _, _, impossible⟩⟩ :=
      Pipeline.run_error failed
    · cases impossible
    · cases impossible

theorem Fails.run {nodes : Pipeline} (fails : Fails reg s nodes e t) :
    nodes.run reg s = (.error e, t) := by
  induction fails with
  | cancelled arrives cancelled => exact arrives.run_cancelled cancelled
  | itself arrives live _ failed => rw [arrives.run_live live, failed]; rfl
  | inside arrives live taken _ ih =>
    rw [arrives.run_live live, Node.run_taken taken, ih]; rfl

theorem Pipeline.run_eq_error_iff {nodes : Pipeline} :
    nodes.run reg s = (.error e, t) ↔ Fails reg s nodes e t :=
  ⟨fails_of_run, Fails.run⟩

theorem Pipeline.execute_eq_error_iff {pipeline : Pipeline} :
    pipeline.execute reg s = (.error e, t) ↔ Fails reg s pipeline e t := by
  rw [← Pipeline.run_eq_error_iff]
  unfold Pipeline.execute
  cases pipeline.run reg s with
  | mk result u => cases result <;> simp [Except.map]

end RulePipeline
