import RulePipeline.Host
import RulePipeline.Proofs.Except
import RulePipeline.Proofs.Run.Arrival

/-! A branch whose way is known can be replaced by the pipeline that it takes. The run stays the
same but for the places in its errors. What ends a run at any depth ends the levels around it
with the same flow, so that no node behind it starts. -/
namespace RulePipeline

/-- The outcome with the places of its error left out. -/
def unplaced {α : Type} (o : Except RunError α × State) : Except RunError α × State :=
  (o.1.mapError RunError.root, o.2)

section

variable {reg : Registry}

theorem RunError.root_shift (n : Nat) (e : RunError) : (e.shift n).root = e.root := by
  cases e <;> rfl

theorem unplaced_shift (n : Nat) (o : Outcome) : unplaced (o.shift n) = unplaced o := by
  obtain ⟨result, t⟩ := o
  cases result with
  | error e => simp [unplaced, RunError.root_shift]
  | ok flow => rfl

theorem unplaced_placed (index : Nat) (kind : NodeKind) (o : Outcome) :
    unplaced (o.placed index kind) = unplaced o := by
  obtain ⟨result, t⟩ := o
  cases result <;> rfl

theorem unplaced_andThen (o : Outcome) (next : State → Outcome) :
    unplaced (o.andThen next) = Outcome.andThen (unplaced o) fun t => unplaced (next t) := by
  obtain ⟨result, t⟩ := o
  cases result with
  | error e => rfl
  | ok flow => cases flow <;> rfl

theorem unplaced_runFrom (index : Nat) (s : State) (nodes : Pipeline) :
    unplaced (runFrom reg index s nodes) = unplaced (nodes.run reg s) :=
  calc unplaced (runFrom reg index s nodes)
      = unplaced ((runFrom reg 0 s nodes).shift index) := by rw [← runFrom_shift, Nat.add_zero]
    _ = unplaced (nodes.run reg s) := unplaced_shift index _

theorem unplaced_append (p q : Pipeline) (s : State) :
    unplaced (Pipeline.run reg (p ++ q) s) =
      Outcome.andThen (unplaced (p.run reg s)) fun t => unplaced (q.run reg t) := by
  simp only [Pipeline.run, runFrom_append, unplaced_andThen, unplaced_runFrom]

theorem unplaced_cons {s : State} (node : Node) (rest : Pipeline)
    (live : s.handle.cancelled = false) :
    unplaced (Pipeline.run reg (node :: rest) s) =
      Outcome.andThen (unplaced (node.run reg s)) fun t => unplaced (rest.run reg t) := by
  rw [Pipeline.run, runFrom_live _ _ _ _ live, unplaced_andThen, unplaced_placed]
  simp only [unplaced_runFrom]

/-- Behind a shared branch its pipeline has left what it would have left in its place. -/
theorem Node.run_shared {s : State} {node : Node} {inner : Pipeline}
    (taken : node.taken? s.context = some inner) (shared : node.isolates = false) :
    node.run reg s = inner.run reg s := by
  rw [Node.run_taken taken, shared]
  rfl

theorem unplaced_inline {a b inner : Pipeline} {node : Node} {s t : State}
    (before : a.run reg s = (.ok .next, t)) (live : t.handle.cancelled = false)
    (taken : node.taken? t.context = some inner) (shared : node.isolates = false) :
    unplaced (Pipeline.run reg (a ++ node :: b) s) =
      unplaced (Pipeline.run reg (a ++ (inner ++ b)) s) := by
  rw [unplaced_append, unplaced_append, before]
  change unplaced (Pipeline.run reg (node :: b) t) = unplaced (Pipeline.run reg (inner ++ b) t)
  rw [unplaced_cons _ _ live, unplaced_append, Node.run_shared taken shared]

theorem unplaced_execute (pipeline : Pipeline) (s : State) :
    unplaced (pipeline.execute reg s) =
      ((unplaced (pipeline.run reg s)).1.map Flow.value?, (unplaced (pipeline.run reg s)).2) := by
  simp only [Pipeline.execute]
  cases pipeline.run reg s with
  | mk result t => cases result <;> rfl

end

/-- A run comes to a node at some depth, with `t` in front of it and not cancelled. Where there
is an isolated branch on the way, `entry` is the context in front of the outermost one. -/
inductive Reaches (reg : Registry) :
    State → Pipeline → Node → State → Option Context → Prop where
  | here : Arrives reg s nodes index node t → t.handle.cancelled = false →
      Reaches reg s nodes node t none
  | inside {inner : Pipeline} : Arrives reg s nodes index branch t → t.handle.cancelled = false →
      branch.taken? t.context = some inner → Reaches reg t inner node u entry →
      Reaches reg s nodes node u (if branch.isolates then some t.context else entry)

/-- The levels around the end of a run add nothing to it. -/
theorem Reaches.run_ended {reg : Registry} {s t u : State} {nodes : Pipeline} {node : Node}
    {entry : Option Context} {flow : Flow} (reaches : Reaches reg s nodes node t entry)
    (ended : node.run reg t = (.ok flow, u)) (last : flow ≠ .next) :
    nodes.run reg s = (.ok flow, ⟨entry.getD u.context, u.handle⟩) := by
  induction reaches with
  | here arrives live =>
    rw [arrives.run_live live, ended, Outcome.placed_ok, Outcome.andThen_ended last]
    rfl
  | @inside _ _ _ branch _ _ _ _ _ arrives live taken _ ih =>
    rw [arrives.run_live live, Node.run_taken taken, ih ended, Outcome.placed_ok,
      Outcome.andThen_ended last]
    -- An isolated branch leaves the context in front of it, a shared one that of the run inside.
    cases branch.isolates <;> rfl

/-- The pipeline that a shared branch takes can stand in place of the branch: the same value is
returned or the same error is at the root, with the same context and the same calls. A return or
a stop ends the run where it stands, at any depth: the calls are those made in front of it, and
the context is the one in front of it or of the outermost isolated branch around it. -/
theorem Pipeline.execute_inline (reg : Registry) :
    (∀ a b inner condition onTrue onFalse outcome s t,
      Pipeline.run reg a s = (.ok .next, t) → t.handle.cancelled = false →
      condition.eval t.context = .ok outcome →
      (if outcome then onTrue else onFalse) = some inner →
      unplaced (Pipeline.execute reg (a ++ [.branch condition onTrue onFalse false] ++ b) s) =
        unplaced (Pipeline.execute reg (a ++ inner ++ b) s)) ∧
    (∀ s pipeline value t entry v, Reaches reg s pipeline (.ret value) t entry →
      value.eval t.context = .ok v →
      pipeline.execute reg s = (.ok (some v), ⟨entry.getD t.context, t.handle⟩)) ∧
    ∀ s pipeline t entry, Reaches reg s pipeline .stop t entry →
      pipeline.execute reg s = (.ok none, ⟨entry.getD t.context, t.handle⟩) := by
  refine ⟨?_, ?_, ?_⟩
  · intro a b inner condition onTrue onFalse outcome s t before live evaluated side
    have taken : (Node.branch condition onTrue onFalse false).taken? t.context = some inner := by
      simpa only [Node.taken?, evaluated] using side
    rw [List.append_assoc, List.append_assoc, unplaced_execute, unplaced_execute]
    simp only [List.singleton_append, unplaced_inline before live taken rfl]
  · intro s pipeline value t entry v reaches evaluated
    have ended : (Node.ret value).run reg t = (.ok (.ret v), t) := by
      simp only [Node.run, evalTerm, evaluated, mapError_ok]
    rw [Pipeline.execute, reaches.run_ended ended Flow.noConfusion]
    rfl
  · intro s pipeline t entry reaches
    rw [Pipeline.execute, reaches.run_ended (rfl : Node.stop.run reg t = (.ok .stop, t))
      Flow.noConfusion]
    rfl

/-- A shared branch in front of a stop holds an isolated one, and this one returns. -/
theorem execute_inline_nested :
    let reg : Registry := ⟨.ofList [("echo", .echo)], .empty⟩
    let save (name : String) : Node := .query ⟨"echo", .literal (.bool true), name⟩
    let leaf : Pipeline := [.ret (.read "first")]
    let inner : Pipeline := [save "second", .branch (.any []) none (some leaf) true]
    let pipeline : Pipeline :=
      [save "first"] ++ [.branch (.all []) (some inner) none false] ++ [.stop]
    let call : Call := ⟨"echo", .bool true⟩
    let first : Context := SortedMap.empty.insert "first" (.bool true)
    let s : State := ⟨.empty, .fresh⟩
    let t : State := ⟨first, ⟨[call], false⟩⟩
    let u : State := ⟨first.insert "second" (.bool true), ⟨[call, call], false⟩⟩
    (Pipeline.run reg [save "first"] s = (.ok .next, t) ∧ t.handle.cancelled = false ∧
      Condition.eval t.context (.all []) = .ok true ∧
      (if true then some inner else none) = some inner ∧
      unplaced (pipeline.execute reg s) =
        unplaced (Pipeline.execute reg ([save "first"] ++ inner ++ [.stop]) s)) ∧
    (Reaches reg s pipeline (.ret (.read "first")) u (some u.context) ∧
      Term.eval u.context (.read "first") = .ok (.bool true) ∧
      pipeline.execute reg s = (.ok (some (.bool true)), u)) ∧
    Reaches reg s [.stop, save "first"] .stop s none ∧
      Pipeline.execute reg [.stop, save "first"] s = (.ok none, s) := by
  intro reg save leaf inner pipeline call first s t u
  obtain ⟨inline, returns, stops⟩ := Pipeline.execute_inline reg
  have before : Pipeline.run reg [save "first"] s = (.ok .next, t) := rfl
  have shared : Arrives reg s pipeline 1 (.branch (.all []) (some inner) none false) t :=
    ⟨rfl, rfl⟩
  have isolated : Arrives reg t inner 1 (.branch (.any []) none (some leaf) true) u := ⟨rfl, rfl⟩
  have last : Arrives reg u leaf 0 (.ret (.read "first")) u := ⟨rfl, rfl⟩
  have returned : Reaches reg s pipeline (.ret (.read "first")) u (some u.context) :=
    .inside shared rfl rfl (.inside isolated rfl rfl (.here last rfl))
  have first : Arrives reg s [.stop, save "first"] 0 .stop s := ⟨rfl, rfl⟩
  have stopped : Reaches reg s [.stop, save "first"] .stop s none := .here first rfl
  exact ⟨⟨before, rfl, rfl, rfl, inline _ _ inner _ _ _ true s t before rfl rfl rfl⟩,
    ⟨returned, rfl, returns s pipeline _ u _ _ returned rfl⟩,
    stopped, stops s _ s none stopped⟩

end RulePipeline
