import RulePipeline.Proofs.Run.Failing

/-! The places in an error. The layers of the error of a failed run, from the outside in, are the
places of the nodes that the run was in: all but the last of them are branches, and the root is
what the last of them raised, or a cancellation in front of a node inside of it. -/
namespace RulePipeline

/-- The places around the root, from the outside in. -/
def RunError.layers : RunError → List (Nat × NodeKind)
  | .node index kind cause => (index, kind) :: cause.layers
  | _ => []

/-- The error is a cancellation in front of a node of the level, or it names by place and kind a
node that the level comes to; the cause is then raised by this node itself, or it is an error of
this same form of the pipeline with which the node goes on. -/
def RunError.Attributed (reg : Registry) : RunError → State → Pipeline → Prop
  | .cancelled, s, nodes =>
    ∃ index node t, Arrives reg s nodes index node t ∧ t.handle.cancelled = true
  | .node index kind cause, s, nodes =>
    ∃ node t, Arrives reg s nodes index node t ∧ kind = node.kind ∧
      (node.Raises t.context cause ∨
        ∃ inner, node.taken? t.context = some inner ∧ cause.Attributed reg t inner)
  | _, _, _ => False

/-- The node to which places lead from the outside in, each but the last through a branch. -/
inductive Spells : Pipeline → List (Nat × NodeKind) → Node → Prop where
  | last : nodes[index]? = some node → Spells nodes [(index, node.kind)] node
  | inside {inner : Pipeline} : nodes[index]? = some (.branch condition onTrue onFalse isolated) →
      onTrue = some inner ∨ onFalse = some inner → Spells inner layers node →
      Spells nodes ((index, .branch) :: layers) node

theorem Spells.layers_ne_nil {nodes : Pipeline} {layers : List (Nat × NodeKind)} {node : Node}
    (spells : Spells nodes layers node) : layers ≠ [] := by
  cases spells <;> exact List.cons_ne_nil _ _

theorem Spells.branches {nodes : Pipeline} {layers : List (Nat × NodeKind)} {node : Node}
    (spells : Spells nodes layers node) : ∀ layer ∈ layers.dropLast, layer.2 = .branch := by
  induction spells with
  | last => intro layer member; cases member
  | inside _ _ deeper ih =>
    intro layer member
    rw [List.dropLast_cons_of_ne_nil deeper.layers_ne_nil] at member
    rcases List.mem_cons.mp member with rfl | member
    · rfl
    · exact ih layer member

theorem Node.Raises.layers_eq_nil {context : Context} {node : Node} {e : RunError}
    (raises : node.Raises context e) : e.layers = [] := by
  cases raises <;> rfl

theorem Node.Raises.ne_stop {context : Context} {node : Node} {e : RunError}
    (raises : node.Raises context e) : node ≠ .stop := by
  cases raises <;> exact Node.noConfusion

theorem RunError.root_ne_node (e : RunError) (index : Nat) (kind : NodeKind) (cause : RunError) :
    e.root ≠ .node index kind cause := by
  induction e with
  | node _ _ inner ih => exact ih
  | _ => exact RunError.noConfusion

theorem Fails.attributed {reg : Registry} {nodes : Pipeline} {s u : State} {e : RunError}
    (fails : Fails reg s nodes e u) : e.Attributed reg s nodes := by
  induction fails with
  | cancelled arrives cancelled => exact ⟨_, _, _, arrives, cancelled⟩
  | itself arrives _ outside failed =>
    exact ⟨_, _, arrives, rfl, .inl (Node.run_error_itself outside failed).1⟩
  | inside arrives _ taken _ ih => exact ⟨_, _, arrives, rfl, .inr ⟨_, taken, ih⟩⟩

theorem RunError.Attributed.spells {reg : Registry} {e : RunError} {s : State} {nodes : Pipeline}
    (attributed : e.Attributed reg s nodes) :
    e = .cancelled ∨ ∃ node, Spells nodes e.layers node ∧ node ≠ .stop := by
  induction e generalizing nodes s with
  | cancelled => exact .inl rfl
  | node index kind cause ih =>
    obtain ⟨node, t, arrives, rfl, raises | ⟨inner, taken, deeper⟩⟩ := attributed
    · refine .inr ⟨node, ?_, raises.ne_stop⟩
      rw [layers, raises.layers_eq_nil]
      exact .last arrives.present
    · obtain ⟨condition, onTrue, onFalse, isolated, outcome, rfl, _, side⟩ :=
        node.branch_of_taken taken
      have held : onTrue = some inner ∨ onFalse = some inner := by
        cases outcome with
        | true => exact .inl side
        | false => exact .inr side
      rcases ih deeper with rfl | ⟨last, spells, ne_stop⟩
      · exact .inr ⟨_, .last arrives.present, Node.noConfusion⟩
      · exact .inr ⟨last, .inside arrives.present held spells, ne_stop⟩
  | _ => exact attributed.elim

/-- The error of a failed run names the place where it comes from. -/
theorem Pipeline.execute_error_attributed {reg : Registry} {pipeline : Pipeline} {s t : State}
    {e : RunError} (failed : pipeline.execute reg s = (.error e, t)) :
    e.Attributed reg s pipeline ∧
      (e = .cancelled ∨ ∃ node, Spells pipeline e.layers node ∧ node ≠ .stop) ∧
      (∀ layer ∈ e.layers.dropLast, layer.2 = .branch) ∧
      ∀ index kind cause, e.root ≠ .node index kind cause := by
  have attributed := (Pipeline.execute_eq_error_iff.mp failed).attributed
  have spelled := attributed.spells
  refine ⟨attributed, spelled, ?_, e.root_ne_node⟩
  rcases spelled with rfl | ⟨node, spells, _⟩
  · intro layer member
    cases member
  · exact spells.branches

/-- A value that is missing two levels down, on the false side of an isolated branch. -/
theorem missing_value_attributed :
    let inner : Pipeline := [.branch (.any []) none (some [.ret (.read "limit")]) true]
    let pipeline : Pipeline := [.branch (.all []) (some inner) none false]
    let reg : Registry := ⟨.empty, .empty⟩
    let s : State := ⟨.empty, .fresh⟩
    let e : RunError :=
      .node 0 .branch (.node 0 .branch (.node 0 .ret (.term (.notInContext "limit"))))
    pipeline.execute reg s = (.error e, s) ∧
      e.Attributed reg s pipeline ∧
      (e = .cancelled ∨ ∃ node, Spells pipeline e.layers node ∧ node ≠ .stop) ∧
      (∀ layer ∈ e.layers.dropLast, layer.2 = .branch) ∧
      ∀ index kind cause, e.root ≠ .node index kind cause :=
  ⟨rfl, Pipeline.execute_error_attributed rfl⟩

end RulePipeline
