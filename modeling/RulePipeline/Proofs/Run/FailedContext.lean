import RulePipeline.Proofs.Run.Attribution

/-! The context behind a failed run. The places in the error are enough to tell it: what the nodes
in front of the failing one have written stays, and nothing else is written. Only what was
written inside of an isolated branch is gone. -/
namespace RulePipeline

/-- The context in front of the node at a path, as the caller of the pipeline sees it: the nodes
in front of the place are run at each level, until the way goes into an isolated branch. -/
def contextAt (reg : Registry) : List Nat → State → Pipeline → Option Context
  | [], _, _ => none
  | index :: path, s, nodes =>
    match nodes[index]?, Pipeline.run reg (nodes.take index) s with
    | some node, (.ok .next, t) =>
      if path = [] ∨ node.isolates = true then some t.context
      else (node.taken? t.context).bind fun inner => contextAt reg path t inner
    | _, _ => none

section

variable {reg : Registry} {s t exit : State} {nodes inner : Pipeline} {index : Nat} {node : Node}
  {path : List Nat}

theorem contextAt_here (arrives : Arrives reg s nodes index node t) :
    contextAt reg [index] s nodes = some t.context := by
  simp [contextAt, arrives.present, arrives.before]

/-- Behind a branch on the way, its caller sees what the branch leaves of the context inside. -/
theorem contextAt_taken (arrives : Arrives reg s nodes index node t)
    (taken : node.taken? t.context = some inner)
    (inside : contextAt reg path t inner = some exit.context) :
    contextAt reg (index :: path) s nodes = some (t.leave exit node.isolates).context := by
  have deeper : path ≠ [] := by
    rintro rfl
    cases inside
  cases isolates : node.isolates with
  | true => simp [contextAt, arrives.present, arrives.before, isolates, State.leave]
  | false =>
    simp [contextAt, arrives.present, arrives.before, isolates, taken, deeper, inside, State.leave]

end

theorem Fails.context {reg : Registry} {s u : State} {nodes : Pipeline} {e : RunError}
    (fails : Fails reg s nodes e u) (root : e.root ≠ .cancelled) :
    contextAt reg (e.layers.map Prod.fst) s nodes = some u.context := by
  induction fails with
  | cancelled => exact absurd rfl root
  | itself arrives _ outside failed =>
    obtain ⟨raises, unchanged⟩ := Node.run_error_itself outside failed
    rw [RunError.layers, raises.layers_eq_nil, unchanged]
    exact contextAt_here arrives
  | inside arrives _ taken _ ih => exact contextAt_taken arrives taken (ih root)

/-- A failed run leaves the context that the nodes in front of the failing one have made. A node
that fails, and not in a pipeline inside of it, has written nothing. -/
theorem Pipeline.context_of_failed_execute (reg : Registry) :
    (∀ pipeline s e t, Pipeline.execute reg pipeline s = (.error e, t) →
      e.root ≠ .cancelled →
      contextAt reg (e.layers.map Prod.fst) s pipeline = some t.context) ∧
    ∀ node s e t, Node.run reg s node = (.error e, t) →
      node.taken? s.context = none → t.context = s.context := by
  constructor
  · intro pipeline s e t failed root
    exact (Pipeline.execute_eq_error_iff.mp failed).context root
  · intro node s e t failed outside
    exact (node.run_error_itself outside failed).2

/-- Of three nodes that have written, the last one did so in an isolated branch; the query behind
it has called its source but saved nothing. -/
theorem failed_execute_keeps_shared_writes :
    let source : DataSource :=
      ⟨.any, .any, fun _ v => if v.isNil then .fail "no answer" else .ok v⟩
    let reg : Registry := ⟨.ofList [("source", source)], .empty⟩
    let save (name : String) : Node := .query ⟨"source", .literal (.bool true), name⟩
    let failing : Node := .query ⟨"source", .literal .nil, "fourth"⟩
    let isolated : Node := .branch (.any []) none (some [save "third", failing]) true
    let pipeline : Pipeline :=
      [save "first", .branch (.all []) (some [save "second", isolated]) none false]
    let s : State := ⟨.empty, .fresh⟩
    let called : State := ⟨.empty, ⟨[⟨"source", .nil⟩], false⟩⟩
    let cause : RunError := .source "source" (.query "no answer")
    let e : RunError := .node 1 .branch (.node 1 .branch (.node 1 .query cause))
    let first : Context := SortedMap.empty.insert "first" (.bool true)
    let left : Context := first.insert "second" (.bool true)
    (∃ handle, pipeline.execute reg s = (.error e, ⟨left, handle⟩)) ∧ e.root ≠ .cancelled ∧
      contextAt reg [1, 1, 1] s pipeline = some left ∧
      failing.run reg s = (.error cause, called) ∧ failing.taken? s.context = none ∧
      called.context = s.context := by
  intro source reg save failing isolated pipeline s called cause e first left
  obtain ⟨of_run, of_node⟩ := Pipeline.context_of_failed_execute reg
  have root : e.root ≠ .cancelled := RunError.noConfusion
  have failed : failing.run reg s = (.error cause, called) := rfl
  exact ⟨⟨_, rfl⟩, root, of_run pipeline s e ⟨left, _⟩ rfl root, failed, rfl,
    of_node failing s cause called failed rfl⟩

end RulePipeline
