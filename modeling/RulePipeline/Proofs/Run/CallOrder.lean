import RulePipeline.Host
import RulePipeline.Proofs.Run.Effects

/-! The order of the calls. With one side chosen of each branch, the queries of a pipeline have an
order in which each stands once; the calls of a run come from some of them in this order, and
where the run comes to the end of the pipeline, from all of them. -/
namespace RulePipeline

/-- The pair with the place as a level sees it that has the node at `index`. -/
def placeUnder {α : Type} (index : Nat) (a : List Nat × α) : List Nat × α := (index :: a.1, a.2)

mutual

/-- The queries of a node in pre-order, each with its place. Of a branch, there are those of the
side that is chosen at its place. -/
def Node.queries (choice : List Nat → Bool) : Node → List (List Nat × Query)
  | .query q => [([], q)]
  | .branch _ onTrue onFalse _ =>
    if choice [] then sideQueries choice onTrue else sideQueries choice onFalse
  | _ => []

def sideQueries (choice : List Nat → Bool) : Option (List Node) → List (List Nat × Query)
  | none => []
  | some nodes => queriesFrom choice 0 nodes

def queriesFrom (choice : List Nat → Bool) (index : Nat) : List Node → List (List Nat × Query)
  | [] => []
  | node :: rest =>
    (node.queries fun place => choice (index :: place)).map (placeUnder index) ++
      queriesFrom choice (index + 1) rest

end

def Pipeline.queries (choice : List Nat → Bool) (pipeline : Pipeline) : List (List Nat × Query) :=
  queriesFrom choice 0 pipeline

/-- A query that has called its source. -/
structure Asked where
  place : List Nat
  query : Query
  call : Call

def Asked.site (a : Asked) : List Nat × Query := (a.place, a.query)

namespace Visit

def asked? (reg : Registry) (v : Visit) : Option Asked :=
  match v.node with
  | .query q => (q.call? reg v.before.context).map (Asked.mk v.place q)
  | _ => none

/-- The side that the condition of a branch selects. -/
def outcome? (v : Visit) : Option Bool :=
  match v.node with
  | .branch condition _ _ _ => (condition.eval v.before.context).toOption
  | _ => none

end Visit

/-- The queries that a run asks, in the order of their calls. -/
def Pipeline.asked (reg : Registry) (pipeline : Pipeline) (s : State) : List Asked :=
  (pipeline.visits reg s).filterMap (Visit.asked? reg)

/-- The queries among the visits that have called their sources, with their places. -/
def sitesOf (reg : Registry) (visits : List Visit) : List (List Nat × Query) :=
  visits.filterMap fun v => (v.asked? reg).map Asked.site

section

variable {reg : Registry}

theorem Visit.asked?_call (v : Visit) : (v.asked? reg).map Asked.call = v.call? reg := by
  obtain ⟨place, node, before, entry, behind⟩ := v
  cases node with
  | query q =>
    change ((q.call? reg before.context).map (Asked.mk place q)).map Asked.call =
      q.call? reg before.context
    cases q.call? reg before.context <;> rfl
  | _ => rfl

theorem Visit.asked?_within (index : Nat) (branch : Node) (s : State) (rest : Pipeline)
    (v : Visit) :
    ((v.within index branch s rest).asked? reg).map Asked.site =
      ((v.asked? reg).map Asked.site).map (placeUnder index) := by
  obtain ⟨place, node, before, entry, behind⟩ := v
  cases node with
  | query q =>
    change ((q.call? reg before.context).map (Asked.mk (index :: place) q)).map Asked.site =
      (((q.call? reg before.context).map (Asked.mk place q)).map Asked.site).map (placeUnder index)
    cases q.call? reg before.context <;> rfl
  | _ => rfl

theorem Pipeline.asked_call (pipeline : Pipeline) (s : State) :
    (pipeline.asked reg s).map Asked.call =
      (pipeline.visits reg s).filterMap (Visit.call? reg) := by
  rw [asked, List.map_filterMap]
  simp only [Visit.asked?_call]

theorem Pipeline.asked_site (pipeline : Pipeline) (s : State) :
    (pipeline.asked reg s).map Asked.site = sitesOf reg (pipeline.visits reg s) :=
  List.map_filterMap

theorem sitesOf_append (front back : List Visit) :
    sitesOf reg (front ++ back) = sitesOf reg front ++ sitesOf reg back :=
  List.filterMap_append

theorem sitesOf_within (index : Nat) (branch : Node) (s : State) (rest : Pipeline)
    (visits : List Visit) :
    sitesOf reg (visits.map (.within index branch s rest)) =
      (sitesOf reg visits).map (placeUnder index) := by
  rw [sitesOf, sitesOf, List.filterMap_map, List.map_filterMap]
  simp only [Function.comp_def, Visit.asked?_within]

end

/-- The visits follow a choice of sides, and the queries that they ask are some of those chosen,
in their order; where `all` holds, they are all of them. -/
structure InOrder (reg : Registry) (choice : List Nat → Bool) (visits : List Visit)
    (queries : List (List Nat × Query)) (all : Prop) : Prop where
  follows : ∀ v ∈ visits, ∀ outcome, v.outcome? = some outcome → choice v.place = outcome
  among : (sitesOf reg visits).Sublist queries
  every : all → sitesOf reg visits = queries

namespace InOrder

variable {reg : Registry} {choice other : List Nat → Bool} {front back visits : List Visit}
  {first second queries : List (List Nat × Query)} {all more : Prop}

theorem append (left : InOrder reg choice front first all)
    (right : InOrder reg choice back second more) :
    InOrder reg choice (front ++ back) (first ++ second) (all ∧ more) where
  follows := by
    intro v member
    rcases List.mem_append.mp member with member | member
    · exact left.follows v member
    · exact right.follows v member
  among := by
    rw [sitesOf_append]
    exact left.among.append right.among
  every := by
    rintro ⟨all, more⟩
    rw [sitesOf_append, left.every all, right.every more]

theorem mono (holds : InOrder reg choice visits queries all) (fewer : more → all) :
    InOrder reg choice visits queries more :=
  ⟨holds.follows, holds.among, fun m => holds.every (fewer m)⟩

/-- Queries may follow that are not asked. -/
theorem extend (holds : InOrder reg choice visits first all) (second : List (List Nat × Query))
    (never : ¬ more) : InOrder reg choice visits (first ++ second) more :=
  ⟨holds.follows, holds.among.trans (List.sublist_append_left _ _), fun m => absurd m never⟩

theorem congr (holds : InOrder reg choice visits queries all)
    (same : ∀ v ∈ visits, choice v.place = other v.place) :
    InOrder reg other visits queries all :=
  ⟨fun v member outcome selects => same v member ▸ holds.follows v member outcome selects,
    holds.among, holds.every⟩

end InOrder

section

variable {reg : Registry} {choice other : List Nat → Bool}

theorem queriesFrom_congr (index : Nat) (nodes : Pipeline)
    (same : ∀ i place, index ≤ i → choice (i :: place) = other (i :: place)) :
    queriesFrom choice index nodes = queriesFrom other index nodes := by
  induction nodes generalizing index with
  | nil => rfl
  | cons node rest ih =>
    have here : (fun place => choice (index :: place)) = fun place => other (index :: place) :=
      funext fun place => same index place (Nat.le_refl _)
    rw [queriesFrom, queriesFrom, here,
      ih (index + 1) fun i place later => same i place (Nat.le_of_succ_le later)]

theorem Query.call?_of_next {q : Query} {s : State} (next : (q.run reg s).1 = .ok .next) :
    ∃ call, q.call? reg s.context = some call := by
  rw [q.run_eq_saveResult] at next
  cases answered : (q.answer reg s).1 with
  | error e =>
    rw [answered] at next
    cases next
  | ok v => exact q.call?_of_answer answered

theorem Visited.place_eq {index : Nat} {s : State} {nodes : Pipeline} {v : Visit}
    (visited : Visited reg index s nodes v) : ∃ i place, v.place = i :: place ∧ index ≤ i := by
  induction visited with
  | here => exact ⟨_, _, rfl, Nat.le_refl _⟩
  | inside => exact ⟨_, _, rfl, Nat.le_refl _⟩
  | later _ _ _ ih =>
    obtain ⟨i, place, same, bound⟩ := ih
    exact ⟨i, place, same, Nat.le_of_succ_le bound⟩

/-- A choice of sides for the places under a node: its own side and those inside of it. -/
def sidesUnder (outcome : Bool) (inside : List Nat → Bool) : List Nat → Bool
  | _ :: i :: place => inside (i :: place)
  | _ => outcome

/-- A choice for a level: one for what is under its first node, and one for the rest. -/
def sidesOfLevel (index : Nat) (first later : List Nat → Bool) (place : List Nat) : Bool :=
  if place.head? = some index then first place else later place

theorem sidesOfLevel_of_lt (first later : List Nat → Bool) {index i : Nat} (place : List Nat)
    (behind : index < i) : sidesOfLevel index first later (i :: place) = later (i :: place) := by
  refine if_neg ?_
  simp only [List.head?_cons, Option.some.injEq]
  omega

theorem sidesOfLevel_first (first later : List Nat → Bool) {index : Nat} {s : State} {node : Node}
    {rest : Pipeline} {v : Visit} (member : v ∈ node.visitsAt reg index rest s) :
    sidesOfLevel index first later v.place = first v.place := by
  rcases Node.mem_visitsAt member with rfl | ⟨_, w, _, _, rfl⟩
  · exact if_pos rfl
  · exact if_pos rfl

theorem sidesOfLevel_later (first later : List Nat → Bool) {index : Nat} {s : State}
    {nodes : Pipeline} {v : Visit} (visited : Visited reg (index + 1) s nodes v) :
    sidesOfLevel index first later v.place = later v.place := by
  obtain ⟨i, place, same, behind⟩ := visited.place_eq
  rw [same]
  exact sidesOfLevel_of_lt first later place behind

theorem queriesFrom_sidesOfLevel (index : Nat) (first later : List Nat → Bool) (node : Node)
    (rest : Pipeline) :
    queriesFrom (sidesOfLevel index first later) index (node :: rest) =
      (node.queries fun place => first (index :: place)).map (placeUnder index) ++
        queriesFrom later (index + 1) rest := by
  have here : (fun place => sidesOfLevel index first later (index :: place)) =
      fun place => first (index :: place) := funext fun _ => if_pos rfl
  rw [queriesFrom, here, queriesFrom_congr (index + 1) rest fun _ place behind =>
    sidesOfLevel_of_lt first later place behind]

theorem Node.queries_branch {condition : Condition} {onTrue onFalse : Option Pipeline}
    {inner : Pipeline} {isolated outcome : Bool} (chosen : choice [] = outcome)
    (side : (if outcome then onTrue else onFalse) = some inner) :
    (Node.branch condition onTrue onFalse isolated).queries choice = inner.queries choice := by
  cases outcome <;> cases side <;> simp only [queries, chosen] <;> rfl

namespace InOrder

theorem of_taken {node : Node} {inner : Pipeline} {s : State} (index : Nat) (rest : Pipeline)
    (taken : node.taken? s.context = some inner)
    (inside : InOrder reg choice (inner.visits reg s) (inner.queries choice)
      ((inner.run reg s).1 = .ok .next)) :
    ∃ sides : List Nat → Bool, InOrder reg sides (node.visitsAt reg index rest s)
      ((node.queries fun place => sides (index :: place)).map (placeUnder index))
      ((node.run reg s).1 = .ok .next) := by
  obtain ⟨condition, onTrue, onFalse, isolated, outcome, rfl, evaluated, side⟩ :=
    node.branch_of_taken taken
  have queries : (Node.branch condition onTrue onFalse isolated).queries
      (fun place => sidesUnder outcome choice (index :: place)) = inner.queries choice :=
    (Node.queries_branch rfl side).trans (queriesFrom_congr 0 inner fun _ _ _ => rfl)
  have sites : sitesOf reg
      ((Node.branch condition onTrue onFalse isolated).visitsAt reg index rest s) =
        (sitesOf reg (inner.visits reg s)).map (placeUnder index) := by
    rw [← sitesOf_within index (.branch condition onTrue onFalse isolated) s rest,
      Node.visitsAt, Node.visits_taken taken]
    rfl
  refine ⟨sidesUnder outcome choice, ?_, ?_, ?_⟩
  · intro v member selected selects
    rcases List.mem_cons.mp member with rfl | member
    · have same : (condition.eval s.context).toOption = some selected := selects
      rw [evaluated] at same
      cases same
      rfl
    · rw [Node.visits_taken taken] at member
      obtain ⟨w, found, rfl⟩ := List.mem_map.mp member
      obtain ⟨i, place, at_place, _⟩ := (visited_of_mem found).place_eq
      have followed : choice w.place = selected := inside.follows w found selected selects
      rw [at_place] at followed
      rw [Visit.within, at_place]
      exact followed
  · rw [queries, sites]
    exact inside.among.map _
  · intro next
    rw [Node.run_taken taken] at next
    rw [queries, sites, inside.every next]

theorem of_query (q : Query) (s : State) (index : Nat) (rest : Pipeline) :
    InOrder reg choice ((Node.query q).visitsAt reg index rest s) [([index], q)]
      (((Node.query q).run reg s).1 = .ok .next) := by
  have sites : sitesOf reg ((Node.query q).visitsAt reg index rest s) =
      ((q.call? reg s.context).map fun _ => ([index], q)).toList := by
    rw [Node.visitsAt, sitesOf, filterMap_cons_toList]
    change (((q.call? reg s.context).map (Asked.mk [index] q)).map Asked.site).toList ++ [] = _
    cases q.call? reg s.context <;> rfl
  refine ⟨?_, ?_, ?_⟩
  · intro v member outcome selects
    cases List.mem_singleton.mp member
    cases selects
  · rw [sites]
    cases q.call? reg s.context with
    | none => exact List.nil_sublist _
    | some call => exact List.Sublist.refl _
  · intro next
    obtain ⟨call, called⟩ := Query.call?_of_next next
    rw [sites, called]
    rfl

/-- A node that is no query and does not get to a pipeline asks nothing, and it does not go on if
it has queries. -/
theorem of_outside {node : Node} {s : State} (index : Nat) (rest : Pipeline)
    (outside : node.taken? s.context = none) (other : ∀ q, node ≠ .query q) :
    ∃ sides : List Nat → Bool, InOrder reg sides (node.visitsAt reg index rest s)
      ((node.queries fun place => sides (index :: place)).map (placeUnder index))
      ((node.run reg s).1 = .ok .next) := by
  let head : Visit := ⟨[index], node, s, none, rest⟩
  have alone : node.visitsAt reg index rest s = [head] := by
    rw [Node.visitsAt, Node.visits_outside outside]
    rfl
  have unasked : sitesOf reg [head] = [] := by
    cases node with
    | query q => exact absurd rfl (other q)
    | _ => rfl
  refine ⟨fun _ => head.outcome?.getD false, ?_, ?_, ?_⟩
  · intro v member outcome selects
    rw [alone] at member
    cases List.mem_singleton.mp member
    rw [selects]
    rfl
  · rw [alone, unasked]
    exact List.nil_sublist _
  · intro next
    rw [alone, unasked]
    cases node with
    | query q => exact absurd rfl (other q)
    | branch condition onTrue onFalse isolated =>
      obtain ⟨e, fails⟩ := Node.run_branch_outside outside
      rw [fails reg s rfl] at next
      cases next
    | _ => rfl

theorem of_level (index : Nat) (s : State) (nodes : Pipeline) :
    ∃ sides, InOrder reg sides (visitsFrom reg index s nodes) (queriesFrom sides index nodes)
      ((runFrom reg index s nodes).1 = .ok .next) := by
  induction nodes using Pipeline.tree_induction generalizing index s with
  | nil =>
    exact ⟨fun _ => false, ⟨fun v member => absurd member List.not_mem_nil,
      List.nil_sublist _, fun _ => rfl⟩⟩
  | cons node rest inside ih =>
    cases live : s.handle.cancelled with
    | true =>
      rw [visitsFrom_cancelled _ _ live, runFrom_cancelled _ _ _ _ live]
      exact ⟨fun _ => false, ⟨fun v member => absurd member List.not_mem_nil,
        List.nil_sublist _, fun never => by cases never⟩⟩
    | false =>
      obtain ⟨first, here⟩ : ∃ sides : List Nat → Bool,
          InOrder reg sides (node.visitsAt reg index rest s)
            ((node.queries fun place => sides (index :: place)).map (placeUnder index))
            ((node.run reg s).1 = .ok .next) := by
        cases taken : node.taken? s.context with
        | some inner =>
          obtain ⟨sides, within⟩ := inside inner (Node.mem_sides_of_taken taken) 0 s
          exact of_taken index rest taken within
        | none =>
          by_cases query : ∃ q, node = .query q
          · obtain ⟨q, rfl⟩ := query
            exact ⟨fun _ => false, of_query q s index rest⟩
          · exact of_outside index rest taken (not_exists.mp query)
      obtain ⟨later, there⟩ := ih (index + 1) (node.run reg s).2
      -- The two choices do not meet: what is behind the node has a greater index.
      replace here := here.congr fun v member => (sidesOfLevel_first first later member).symm
      replace there := there.congr fun v member =>
        (sidesOfLevel_later first later (visited_of_mem member)).symm
      refine ⟨sidesOfLevel index first later, ?_⟩
      rw [queriesFrom_sidesOfLevel]
      by_cases next : (node.run reg s).1 = .ok .next
      · rw [visitsFrom_of_next _ _ live next, runFrom_of_next _ _ live next]
        exact (here.append there).mono fun done => ⟨next, done⟩
      · rw [visitsFrom_of_ended _ _ live next, runFrom_of_ended _ _ live next]
        exact here.extend _ fun done => next (mapError_eq_ok.mp done)

end InOrder

theorem queriesFrom_place {index : Nat} {nodes : Pipeline} {a : List Nat × Query}
    (member : a ∈ queriesFrom choice index nodes) : ∃ i place, a.1 = i :: place ∧ index ≤ i := by
  induction nodes generalizing index with
  | nil => cases member
  | cons node rest ih =>
    rcases List.mem_append.mp member with first | later
    · obtain ⟨b, _, rfl⟩ := List.mem_map.mp first
      exact ⟨index, b.1, rfl, Nat.le_refl _⟩
    · obtain ⟨i, place, same, bound⟩ := ih later
      exact ⟨i, place, same, Nat.le_of_succ_le bound⟩

/-- No two queries of a tree have the same place. -/
theorem queriesFrom_pairwise (choice : List Nat → Bool) (index : Nat) (nodes : Pipeline) :
    (queriesFrom choice index nodes).Pairwise fun a b => a.1 ≠ b.1 := by
  induction nodes using Pipeline.tree_induction generalizing choice index with
  | nil => exact .nil
  | cons node rest inside ih =>
    have under (c : List Nat → Bool) : (node.queries c).Pairwise fun a b => a.1 ≠ b.1 := by
      have side (onSide : Option Pipeline) (held : ∀ inner ∈ onSide.toList, inner ∈ node.sides) :
          (sideQueries c onSide).Pairwise fun a b => a.1 ≠ b.1 := by
        cases onSide with
        | none => exact .nil
        | some inner => exact inside inner (held inner List.mem_cons_self) c 0
      cases node with
      | query q => exact List.pairwise_singleton _ _
      | branch condition onTrue onFalse isolated =>
        rw [Node.queries]
        split
        · exact side onTrue fun _ => List.mem_append_left _
        · exact side onFalse fun _ => List.mem_append_right _
      | _ => exact .nil
    refine List.pairwise_append.mpr ⟨?_, ih choice (index + 1), ?_⟩
    · refine List.pairwise_map.mpr ((under _).imp fun different same => different ?_)
      exact List.tail_eq_of_cons_eq same
    · intro a first b later same
      obtain ⟨a', _, rfl⟩ := List.mem_map.mp first
      obtain ⟨i, place, placed, behind⟩ := queriesFrom_place later
      have heads : index = i := List.head_eq_of_cons_eq (same.trans placed)
      omega

end

/-- The calls of a run are those of the queries that it asks, at most one for each place. There is
a choice of one side for each branch, the sides that the conditions select on the way, such that
the asked queries come in the order of the tree with only these sides; and where the run comes to
the end of the pipeline, each query of this tree has made its call. -/
theorem Pipeline.calls_in_order (reg : Registry) (pipeline : Pipeline) (s : State) :
    (pipeline.execute reg s).2.handle.calls =
      s.handle.calls ++ (pipeline.asked reg s).map Asked.call ∧
    (∀ a ∈ pipeline.asked reg s, ∃ v ∈ pipeline.visits reg s, v.place = a.place ∧
      v.node = .query a.query ∧ a.query.call? reg v.before.context = some a.call) ∧
    ((pipeline.asked reg s).map Asked.place).Nodup ∧
    ∃ sides : List Nat → Bool,
      (∀ v ∈ pipeline.visits reg s, ∀ outcome, v.outcome? = some outcome →
        sides v.place = outcome) ∧
      ((pipeline.asked reg s).map Asked.site).Sublist (pipeline.queries sides) ∧
      ((pipeline.run reg s).1 = .ok .next →
        (pipeline.asked reg s).map Asked.site = pipeline.queries sides) := by
  obtain ⟨sides, ordered⟩ : ∃ sides, InOrder reg sides (pipeline.visits reg s)
      (pipeline.queries sides) ((pipeline.run reg s).1 = .ok .next) := InOrder.of_level 0 s pipeline
  have among : ((pipeline.asked reg s).map Asked.site).Sublist (pipeline.queries sides) := by
    rw [pipeline.asked_site]
    exact ordered.among
  refine ⟨?_, ?_, ?_, sides, ordered.follows, among, ?_⟩
  · rw [pipeline.asked_call]
    exact (Accounts.of_level 0 s pipeline).calls
  · intro a member
    obtain ⟨v, visited, asks⟩ := List.mem_filterMap.mp member
    refine ⟨v, visited, ?_⟩
    unfold Visit.asked? at asks
    split at asks
    · rename_i q query
      obtain ⟨call, called, rfl⟩ := Option.map_eq_some_iff.mp asks
      exact ⟨rfl, query, called⟩
    · cases asks
  · have places : (pipeline.asked reg s).map Asked.place =
        ((pipeline.asked reg s).map Asked.site).map Prod.fst := by
      rw [List.map_map]
      rfl
    rw [places]
    exact List.pairwise_map.mpr ((queriesFrom_pairwise sides 0 pipeline).sublist among)
  · intro next
    rw [pipeline.asked_site]
    exact ordered.every next

/-- The run takes one side of the outer branch and the other one of the isolated branch in it. -/
theorem calls_in_order_nested_sides :
    let reg : Registry := ⟨.ofList [("echo", .echo)], .empty⟩
    let query (text : String) : Query := ⟨"echo", .literal (.string text), text⟩
    let side (text : String) : Option Pipeline := some [.query (query text)]
    let inner : Node := .branch (.any []) (side "skipped") (side "second") true
    let outer : Node := .branch (.all []) (some [.query (query "first"), inner]) (side "other") false
    let pipeline : Pipeline := [outer, .query (query "third")]
    let s : State := ⟨.empty, .fresh⟩
    let call (text : String) : Call := ⟨"echo", .string text⟩
    ((pipeline.run reg s).1 = .ok .next ∧
      pipeline.asked reg s = [⟨[0, 0], query "first", call "first"⟩,
        ⟨[0, 1, 0], query "second", call "second"⟩, ⟨[1], query "third", call "third"⟩]) ∧
    (pipeline.execute reg s).2.handle.calls = [call "first", call "second", call "third"] ∧
    (∃ v ∈ pipeline.visits reg s, v.place = [0, 1, 0] ∧ v.node = .query (query "second")) ∧
    ∃ sides : List Nat → Bool, sides [0] = true ∧ sides [0, 1] = false ∧
      pipeline.queries sides =
        [([0, 0], query "first"), ([0, 1, 0], query "second"), ([1], query "third")] := by
  intro reg query side inner outer pipeline s call
  obtain ⟨calls, visited, _, sides, follows, _, every⟩ := pipeline.calls_in_order reg s
  have next : (pipeline.run reg s).1 = .ok .next := rfl
  have asked : pipeline.asked reg s = [⟨[0, 0], query "first", call "first"⟩,
      ⟨[0, 1, 0], query "second", call "second"⟩, ⟨[1], query "third", call "third"⟩] := rfl
  refine ⟨⟨next, asked⟩, ?_, ?_, sides, ?_, ?_, ?_⟩
  · rw [calls, asked]
    rfl
  · have second : ⟨[0, 1, 0], query "second", call "second"⟩ ∈ pipeline.asked reg s := by
      rw [asked]
      exact .tail _ (.head _)
    obtain ⟨v, member, place, node, _⟩ := visited _ second
    exact ⟨v, member, place, node⟩
  · exact follows _ (.head _) true rfl
  · exact follows _ (.tail _ (.tail _ (.head _))) false rfl
  · rw [← every next, asked]
    rfl

end RulePipeline
