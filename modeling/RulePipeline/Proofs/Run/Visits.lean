import RulePipeline.Proofs.Run.Arrival

/-! The nodes that a run starts, one after another. A node is visited in front of the nodes inside
of it; where a level goes on, the visits of the nodes behind follow. -/
namespace RulePipeline

/-- The pipelines that a node holds. -/
def Node.sides : Node → List Pipeline
  | .branch _ onTrue onFalse _ => onTrue.toList ++ onFalse.toList
  | _ => []

/-- Induction on the tree, level by level: a level may rely on what holds of the pipelines of its
first node and of the nodes behind this one. -/
theorem Pipeline.tree_induction {motive : Pipeline → Prop} (nil : motive [])
    (cons : ∀ node rest, (∀ inner ∈ node.sides, motive inner) → motive rest →
      motive (node :: rest)) (pipeline : Pipeline) : motive pipeline := by
  have leaf (node : Node) (none : node.sides = []) : ∀ inner ∈ node.sides, motive inner := by
    rw [none]
    exact fun inner member => absurd member List.not_mem_nil
  -- The recursor goes from nodes to their sides, and from these to levels.
  have nodes : ∀ node : Node, ∀ inner ∈ node.sides, motive inner :=
    @Node.rec (fun node => ∀ inner ∈ node.sides, motive inner)
      (fun side => ∀ inner ∈ side.toList, motive inner) motive
      (fun q => leaf (.query q) rfl)
      (fun _ _ _ _ onTrue onFalse inner member =>
        (List.mem_append.mp member).elim (onTrue inner) (onFalse inner))
      (fun value => leaf (.ret value) rfl) (fun f => leaf (.filter f) rfl)
      (fun f => leaf (.fold f) rfl) (leaf .stop rfl)
      (fun inner member => absurd member List.not_mem_nil)
      (fun side holds inner member => List.mem_singleton.mp member ▸ holds)
      nil cons
  induction pipeline with
  | nil => exact nil
  | cons node rest ih => exact cons node rest (nodes node) ih

theorem Node.mem_sides_of_taken {context : Context} {node : Node} {inner : Pipeline}
    (taken : node.taken? context = some inner) : inner ∈ node.sides := by
  obtain ⟨condition, onTrue, onFalse, isolated, outcome, rfl, _, side⟩ :=
    node.branch_of_taken taken
  cases outcome with
  | true => exact List.mem_append_left _ (Option.mem_toList.mpr side)
  | false => exact List.mem_append_right _ (Option.mem_toList.mpr side)

/-- A node that a run starts. -/
structure Visit where
  /-- The index at each level, from the outside in. -/
  place : List Nat
  node : Node
  before : State
  /-- The context in front of the outermost isolated branch around the node, if there is one. -/
  entry : Option Context
  /-- What stands behind the node, at its own level and then at those around it. -/
  behind : Pipeline

/-- The visit as the level sees it that holds the branch around the node. -/
def Visit.within (index : Nat) (branch : Node) (s : State) (rest : Pipeline) (v : Visit) : Visit :=
  { v with
    place := index :: v.place
    entry := if branch.isolates then some s.context else v.entry
    behind := v.behind ++ rest }

/-- The visits of what comes next, where an outcome asks for it. -/
def Outcome.visitsNext (o : Outcome) (next : State → List Visit) : List Visit :=
  match o with
  | (.ok .next, t) => next t
  | _ => []

mutual

/-- The visits inside of a node. -/
def Node.visits (reg : Registry) (s : State) : Node → List Visit
  | .branch condition onTrue onFalse _ =>
    match condition.eval s.context with
    | .ok true => visitsSide reg s onTrue
    | .ok false => visitsSide reg s onFalse
    | .error _ => []
  | _ => []

def visitsSide (reg : Registry) (s : State) : Option (List Node) → List Visit
  | none => []
  | some nodes => visitsFrom reg 0 s nodes

/-- The visits of a level, the first node of which has the place `index`. -/
def visitsFrom (reg : Registry) (index : Nat) (s : State) : List Node → List Visit
  | [] => []
  | node :: rest =>
    if s.handle.cancelled then []
    else
      ⟨[index], node, s, none, rest⟩ :: (node.visits reg s).map (.within index node s rest) ++
        (node.run reg s).visitsNext fun t => visitsFrom reg (index + 1) t rest

end

/-- The nodes that the run of a pipeline starts, in their order. -/
def Pipeline.visits (reg : Registry) (pipeline : Pipeline) (s : State) : List Visit :=
  visitsFrom reg 0 s pipeline

/-- The visits of a node and of the nodes inside of it, as the level sees them that holds it. -/
def Node.visitsAt (reg : Registry) (index : Nat) (rest : Pipeline) (s : State) (node : Node) :
    List Visit :=
  ⟨[index], node, s, none, rest⟩ :: (node.visits reg s).map (.within index node s rest)

section

variable {reg : Registry} {s : State} {node : Node}

theorem runFrom_of_next (index : Nat) (rest : Pipeline) (live : s.handle.cancelled = false)
    (next : (node.run reg s).1 = .ok .next) :
    runFrom reg index s (node :: rest) = runFrom reg (index + 1) (node.run reg s).2 rest := by
  rw [runFrom_live _ _ _ _ live]
  generalize node.run reg s = o at next ⊢
  obtain ⟨result, t⟩ := o
  cases next
  rfl

theorem runFrom_of_ended (index : Nat) (rest : Pipeline) (live : s.handle.cancelled = false)
    (ended : (node.run reg s).1 ≠ .ok .next) :
    runFrom reg index s (node :: rest) = (node.run reg s).placed index node.kind := by
  rw [runFrom_live _ _ _ _ live]
  generalize node.run reg s = o at ended ⊢
  obtain ⟨result, t⟩ := o
  cases result with
  | error e => rfl
  | ok flow =>
    have last : flow ≠ .next := fun same => ended (same ▸ rfl)
    rw [Outcome.placed_ok, Outcome.andThen_ended last]

theorem visitsFrom_cancelled (index : Nat) (nodes : Pipeline)
    (cancelled : s.handle.cancelled = true) : visitsFrom reg index s nodes = [] := by
  cases nodes with
  | nil => rfl
  | cons node rest => simp only [visitsFrom, cancelled, if_true]

theorem visitsFrom_of_next (index : Nat) (rest : Pipeline) (live : s.handle.cancelled = false)
    (next : (node.run reg s).1 = .ok .next) :
    visitsFrom reg index s (node :: rest) =
      node.visitsAt reg index rest s ++ visitsFrom reg (index + 1) (node.run reg s).2 rest := by
  simp only [visitsFrom, live, Bool.false_eq_true, if_false]
  generalize node.run reg s = o at next ⊢
  obtain ⟨result, t⟩ := o
  cases next
  rfl

theorem visitsFrom_of_ended (index : Nat) (rest : Pipeline) (live : s.handle.cancelled = false)
    (ended : (node.run reg s).1 ≠ .ok .next) :
    visitsFrom reg index s (node :: rest) = node.visitsAt reg index rest s := by
  have nothing (next : State → List Visit) : (node.run reg s).visitsNext next = [] := by
    generalize node.run reg s = o at ended ⊢
    obtain ⟨result, t⟩ := o
    cases result with
    | error e => rfl
    | ok flow =>
      cases flow with
      | next => exact absurd rfl ended
      | _ => rfl
  simp only [visitsFrom, live, Bool.false_eq_true, if_false, nothing, List.append_nil]
  rfl

theorem Node.visits_taken {inner : Pipeline} (taken : node.taken? s.context = some inner) :
    node.visits reg s = inner.visits reg s := by
  obtain ⟨condition, onTrue, onFalse, isolated, outcome, rfl, evaluated, side⟩ :=
    node.branch_of_taken taken
  cases outcome <;> cases side <;> simp only [visits, evaluated] <;> rfl

theorem Node.visits_outside (outside : node.taken? s.context = none) : node.visits reg s = [] := by
  cases node with
  | branch condition onTrue onFalse isolated =>
    cases evaluated : condition.eval s.context with
    | error e => simp only [visits, evaluated]
    | ok outcome =>
      have absent : (if outcome then onTrue else onFalse) = none :=
        Node.side_of_outside outside evaluated
      cases outcome <;> cases absent <;> simp only [visits, evaluated] <;> rfl
  | _ => rfl

end

/-- A visit at a node is that of the node or one inside of the pipeline with which it goes on. -/
theorem Node.mem_visitsAt {reg : Registry} {index : Nat} {rest : Pipeline} {s : State} {node : Node}
    {v : Visit} (member : v ∈ node.visitsAt reg index rest s) :
    v = ⟨[index], node, s, none, rest⟩ ∨
      ∃ inner w, node.taken? s.context = some inner ∧ w ∈ inner.visits reg s ∧
        v = w.within index node s rest := by
  rcases List.mem_cons.mp member with same | member
  · exact .inl same
  · obtain ⟨w, found, rfl⟩ := List.mem_map.mp member
    cases taken : node.taken? s.context with
    | none =>
      rw [Node.visits_outside taken] at found
      cases found
    | some inner =>
      rw [Node.visits_taken taken] at found
      exact .inr ⟨inner, w, rfl, found, rfl⟩

/-- The visits of a level: its nodes as it comes to them, and the visits inside of these. -/
inductive Visited (reg : Registry) : Nat → State → Pipeline → Visit → Prop where
  | here : s.handle.cancelled = false →
      Visited reg index s (node :: rest) ⟨[index], node, s, none, rest⟩
  | inside {inner : Pipeline} : s.handle.cancelled = false → node.taken? s.context = some inner →
      Visited reg 0 s inner v → Visited reg index s (node :: rest) (v.within index node s rest)
  | later : s.handle.cancelled = false → (node.run reg s).1 = .ok .next →
      Visited reg (index + 1) (node.run reg s).2 rest v → Visited reg index s (node :: rest) v

theorem visited_of_mem {reg : Registry} {index : Nat} {s : State} {nodes : Pipeline} {v : Visit}
    (member : v ∈ visitsFrom reg index s nodes) : Visited reg index s nodes v := by
  induction nodes using Pipeline.tree_induction generalizing index s v with
  | nil => cases member
  | cons node rest inside ih =>
    cases live : s.handle.cancelled with
    | true =>
      rw [visitsFrom_cancelled _ _ live] at member
      cases member
    | false =>
      have here (member : v ∈ node.visitsAt reg index rest s) :
          Visited reg index s (node :: rest) v := by
        rcases Node.mem_visitsAt member with rfl | ⟨inner, w, taken, found, rfl⟩
        · exact .here live
        · exact .inside live taken (inside inner (Node.mem_sides_of_taken taken) found)
      by_cases next : (node.run reg s).1 = .ok .next
      · rw [visitsFrom_of_next _ _ live next] at member
        rcases List.mem_append.mp member with first | later
        · exact here first
        · exact .later live next (ih later)
      · rw [visitsFrom_of_ended _ _ live next] at member
        exact here member

end RulePipeline
