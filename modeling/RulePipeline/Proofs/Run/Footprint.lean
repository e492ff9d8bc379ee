import RulePipeline.Host
import RulePipeline.Proofs.Run.Effects

/-! What a run depends on and what it can change. Of the context, a pipeline reads only the names
that its terms have, and it writes only the names under which its nodes save outside of isolated
branches. -/
namespace RulePipeline

def Term.reads : Term → List String
  | .literal _ => []
  | .read name => [name]
  | .project name _ _ => [name]

namespace Condition

def sideReads : Option Term → List String
  | none => []
  | some t => t.reads

mutual

def reads : Condition → List String
  | .compare lhs _ rhs => sideReads lhs ++ sideReads rhs
  | .all children => childrenReads children
  | .any children => childrenReads children
  | .not child => child.reads
  | .custom _ lhs rhs => sideReads lhs ++ sideReads rhs

def childrenReads : List Condition → List String
  | [] => []
  | c :: rest => c.reads ++ childrenReads rest

end

end Condition

mutual

/-- The names in the terms of a node, those of both sides of a branch included. -/
def Node.reads : Node → List String
  | .query q => q.params.reads
  | .branch condition onTrue onFalse _ => condition.reads ++ (sideReads onTrue ++ sideReads onFalse)
  | .ret value => value.reads
  | .filter f => f.source.reads ++ f.condition.reads
  | .fold f => f.source.reads ++ f.start.reads
  | .stop => []

def sideReads : Option (List Node) → List String
  | none => []
  | some nodes => levelReads nodes

def levelReads : List Node → List String
  | [] => []
  | node :: rest => node.reads ++ levelReads rest

end

mutual

/-- The names under which a node and those inside of it save, isolated branches left out. -/
def Node.saves : Node → List String
  | .query q => [q.saveTo]
  | .branch _ onTrue onFalse isolated =>
    if isolated then [] else sideSaves onTrue ++ sideSaves onFalse
  | .ret _ => []
  | .filter f => [f.saveTo]
  | .fold f => [f.saveTo]
  | .stop => []

def sideSaves : Option (List Node) → List String
  | none => []
  | some nodes => levelSaves nodes

def levelSaves : List Node → List String
  | [] => []
  | node :: rest => node.saves ++ levelSaves rest

end

namespace Pipeline

def reads (pipeline : Pipeline) : List String := levelReads pipeline

def saves (pipeline : Pipeline) : List String := levelSaves pipeline

/-- What a run writes into the context of its caller, in the order of the writes. -/
def writes (reg : Registry) (pipeline : Pipeline) (s : State) : List (String × Value) :=
  (pipeline.visits reg s).filterMap (Visit.write? reg)

def written (reg : Registry) (pipeline : Pipeline) (s : State) : List String :=
  (pipeline.writes reg s).map Prod.fst

end Pipeline

/-- The same entry or none under each of the names. -/
def Context.Agree (names : List String) (c d : Context) : Prop :=
  ∀ name ∈ names, c.find? name = d.find? name

namespace Context.Agree

variable {names more : List String} {c d : Context}

theorem mono (agree : Agree names c d) (fewer : more ⊆ names) : Agree more c d :=
  fun name member => agree name (fewer member)

theorem left (agree : Agree (names ++ more) c d) : Agree names c d :=
  agree.mono (List.subset_append_left _ _)

theorem right (agree : Agree (names ++ more) c d) : Agree more c d :=
  agree.mono (List.subset_append_right _ _)

theorem insertAll (agree : Agree names c d) (pairs : List (String × Value)) :
    Agree names (c.insertAll pairs) (d.insertAll pairs) := by
  intro name member
  by_cases written : name ∈ pairs.map Prod.fst
  · obtain ⟨v, found⟩ := SortedMap.find?_insertAll_of_mem written
    rw [found c, found d]
  · rw [SortedMap.find?_insertAll_of_notMem written, SortedMap.find?_insertAll_of_notMem written]
    exact agree name member

theorem insert (agree : Agree names c d) (name : String) (v : Value) :
    Agree names (c.insert name v) (d.insert name v) :=
  agree.insertAll [(name, v)]

end Context.Agree

section

variable {c d : Context}

theorem Term.eval_congr {t : Term} (agree : Context.Agree t.reads c d) : t.eval c = t.eval d := by
  have lookup_congr (name : String) (same : c.find? name = d.find? name) :
      lookup c name = lookup d name := by
    rw [lookup, lookup, same]
  cases t with
  | literal v => rfl
  | read name => exact lookup_congr name (agree name List.mem_cons_self)
  | project name getter key =>
    rw [eval, eval, lookup_congr name (agree name List.mem_cons_self)]

theorem evalTerm_congr {t : Term} (agree : Context.Agree t.reads c d) :
    evalTerm c t = evalTerm d t := by
  rw [evalTerm, evalTerm, t.eval_congr agree]

namespace Condition

theorem evalSide_congr (side : Side) {t : Option Term} (agree : Context.Agree (sideReads t) c d) :
    evalSide c side t = evalSide d side t := by
  cases t with
  | none => rfl
  | some t => rw [evalSide, evalSide, t.eval_congr agree]

theorem evalCompare_congr (r : Relation) {lhs rhs : Option Term}
    (agree : Context.Agree (sideReads lhs ++ sideReads rhs) c d) :
    evalCompare c lhs r rhs = evalCompare d lhs r rhs := by
  simp only [evalCompare, evalSide_congr _ agree.left, evalSide_congr _ agree.right]

theorem evalCustom_congr (comparison : Option Comparison) {lhs rhs : Option Term}
    (agree : Context.Agree (sideReads lhs ++ sideReads rhs) c d) :
    evalCustom c comparison lhs rhs = evalCustom d comparison lhs rhs := by
  simp only [evalCustom, evalSide_congr _ agree.left, evalSide_congr _ agree.right]

mutual

theorem eval_congr : (x : Condition) → Context.Agree x.reads c d → x.eval c = x.eval d
  | .compare _ r _, agree => evalCompare_congr r agree
  | .all children, agree => evalAll_congr children agree
  | .any children, agree => evalAny_congr children agree
  | .not child, agree => by rw [eval, eval, eval_congr child agree]
  | .custom comparison _ _, agree => evalCustom_congr comparison agree

theorem evalAll_congr :
    (children : List Condition) → Context.Agree (childrenReads children) c d →
      evalAll c children = evalAll d children
  | [], _ => rfl
  | x :: rest, agree => by
    rw [evalAll, evalAll, eval_congr x agree.left, evalAll_congr rest agree.right]

theorem evalAny_congr :
    (children : List Condition) → Context.Agree (childrenReads children) c d →
      evalAny c children = evalAny d children
  | [], _ => rfl
  | x :: rest, agree => by
    rw [evalAny, evalAny, eval_congr x agree.left, evalAny_congr rest agree.right]

end

end Condition

theorem Filter.select_congr {α : Type} {f : Filter} (valueOf : α → Value)
    (agree : Context.Agree f.condition.reads c d) (items : List α) :
    f.select c valueOf items = f.select d valueOf items := by
  have keeps_congr (v : Value) : f.keeps c v = f.keeps d v := by
    rw [keeps, keeps, f.condition.eval_congr (agree.insert f.elementName v)]
  induction items with
  | nil => rfl
  | cons a rest ih => rw [select, select, keeps_congr, ih]

theorem Filter.result_congr {f : Filter}
    (agree : Context.Agree (f.source.reads ++ f.condition.reads) c d) :
    f.result c = f.result d := by
  simp only [result, evalTerm_congr agree.left, select_congr _ agree.right]

theorem Fold.result_congr (reg : Registry) {f : Fold}
    (agree : Context.Agree (f.source.reads ++ f.start.reads) c d) :
    f.result reg c = f.result reg d := by
  simp only [result, evalTerm_congr agree.left, evalTerm_congr agree.right]

variable {reg : Registry} {h : Handle} {node : Node}

theorem Query.answer_congr {q : Query} (agree : Context.Agree q.params.reads c d) :
    q.answer reg ⟨c, h⟩ = q.answer reg ⟨d, h⟩ := by
  rw [answer, answer, evalTerm_congr agree]

theorem Node.saving?_congr (agree : Context.Agree node.reads c d) :
    node.saving? reg ⟨c, h⟩ = node.saving? reg ⟨d, h⟩ := by
  cases node with
  | query q => rw [saving?, saving?, q.answer_congr agree]
  | filter f => rw [saving?, saving?, f.result_congr agree]
  | fold f => rw [saving?, saving?, f.result_congr reg agree]
  | _ => rfl

theorem Node.taken?_congr (agree : Context.Agree node.reads c d) :
    node.taken? c = node.taken? d := by
  cases node with
  | branch condition onTrue onFalse isolated =>
    rw [taken?, taken?, condition.eval_congr agree.left]
  | _ => rfl

/-- A node that goes on with a pipeline inside of it reads at least what this one reads. -/
theorem Node.reads_taken {inner : Pipeline} (taken : node.taken? c = some inner) :
    inner.reads ⊆ node.reads := by
  obtain ⟨condition, onTrue, onFalse, isolated, outcome, rfl, _, side⟩ :=
    node.branch_of_taken taken
  cases outcome <;> cases side <;> simp [reads, RulePipeline.sideReads, Pipeline.reads]

theorem Node.run_silent_congr (agree : Context.Agree node.reads c d)
    (silent : node.saving? reg ⟨c, h⟩ = none) (outside : node.taken? c = none) :
    (node.run reg ⟨c, h⟩).1 = (node.run reg ⟨d, h⟩).1 := by
  cases node with
  | branch condition onTrue onFalse isolated =>
    have same : condition.eval c = condition.eval d := condition.eval_congr agree.left
    obtain ⟨e, fails⟩ := Node.run_branch_outside outside
    rw [fails reg ⟨c, h⟩ rfl, fails reg ⟨d, h⟩ same.symm]
  | ret value =>
    simp only [Node.run, ← evalTerm_congr agree]
    cases evalTerm c value <;> rfl
  | stop => rfl
  | _ => cases silent

end

theorem Accounts.exit_eq {reg : Registry} {s t : State} {visits : List Visit}
    (accounts : Accounts reg s t visits) :
    t = ⟨s.context.insertAll (visits.filterMap (Visit.write? reg)), t.handle⟩ := by
  rw [← accounts.context]

/-- Two runs that end in the same way, with the same calls and the same writes. -/
structure Alike (reg : Registry) (o p : Outcome) (visits others : List Visit) : Prop where
  result : o.1 = p.1
  handle : o.2.handle = p.2.handle
  writes : visits.filterMap (Visit.write? reg) = others.filterMap (Visit.write? reg)

namespace Alike

variable {reg : Registry} {h : Handle} {c d : Context} {node : Node}

theorem of_outside (index : Nat) (rest : Pipeline) (agree : Context.Agree node.reads c d)
    (outside : node.taken? c = none) :
    Alike reg (node.run reg ⟨c, h⟩) (node.run reg ⟨d, h⟩)
      (node.visitsAt reg index rest ⟨c, h⟩) (node.visitsAt reg index rest ⟨d, h⟩) := by
  have outside' : node.taken? d = none := node.taken?_congr agree ▸ outside
  have saves : node.saving? reg ⟨c, h⟩ = node.saving? reg ⟨d, h⟩ := node.saving?_congr agree
  have writes : (node.visitsAt reg index rest ⟨c, h⟩).filterMap (Visit.write? reg) =
      (node.visitsAt reg index rest ⟨d, h⟩).filterMap (Visit.write? reg) := by
    rw [Node.writes_visitsAt, Node.writes_visitsAt, Node.visits_outside outside,
      Node.visits_outside outside', Node.write?, Node.write?, saves]
  cases saving : node.saving? reg ⟨c, h⟩ with
  | none =>
    have silent : node.saving? reg ⟨d, h⟩ = none := saves ▸ saving
    refine ⟨Node.run_silent_congr agree saving outside, ?_, writes⟩
    rw [Node.run_silent saving outside, Node.run_silent silent outside']
  | some saved =>
    rw [Node.run_of_saving saving, Node.run_of_saving (saves ▸ saving)]
    exact ⟨by cases saved.value <;> rfl, by cases saved.value <;> rfl, writes⟩

theorem of_taken {inner : Pipeline} (index : Nat) (rest : Pipeline)
    (agree : Context.Agree node.reads c d) (taken : node.taken? c = some inner)
    (inside : Alike reg (inner.run reg ⟨c, h⟩) (inner.run reg ⟨d, h⟩)
      (inner.visits reg ⟨c, h⟩) (inner.visits reg ⟨d, h⟩)) :
    Alike reg (node.run reg ⟨c, h⟩) (node.run reg ⟨d, h⟩)
      (node.visitsAt reg index rest ⟨c, h⟩) (node.visitsAt reg index rest ⟨d, h⟩) := by
  have taken' : node.taken? d = some inner := node.taken?_congr agree ▸ taken
  have silent (s : State) (taken : node.taken? s.context = some inner) :
      node.write? reg s = none := Node.write?_of_silent (Node.saving?_of_taken taken)
  rw [Node.run_taken taken, Node.run_taken taken']
  constructor
  · exact inside.result
  · rw [State.leave_handle, State.leave_handle]
    exact inside.handle
  · rw [Node.writes_visitsAt, Node.writes_visitsAt, silent _ taken, silent _ taken',
      Node.visits_taken taken, Node.visits_taken taken', inside.writes]

/-- Contexts with the same entries under all names that a level reads are alike to its run. -/
theorem of_level (index : Nat) (h : Handle) {nodes : Pipeline}
    (agree : Context.Agree nodes.reads c d) :
    Alike reg (runFrom reg index ⟨c, h⟩ nodes) (runFrom reg index ⟨d, h⟩ nodes)
      (visitsFrom reg index ⟨c, h⟩ nodes) (visitsFrom reg index ⟨d, h⟩ nodes) := by
  induction nodes using Pipeline.tree_induction generalizing index h c d with
  | nil => exact ⟨rfl, rfl, rfl⟩
  | cons node rest inside ih =>
    cases live : h.cancelled with
    | true =>
      rw [runFrom_cancelled _ _ _ _ live, runFrom_cancelled _ _ _ _ live,
        visitsFrom_cancelled _ _ live, visitsFrom_cancelled _ _ live]
      exact ⟨rfl, rfl, rfl⟩
    | false =>
      have here : Alike reg (node.run reg ⟨c, h⟩) (node.run reg ⟨d, h⟩)
          (node.visitsAt reg index rest ⟨c, h⟩) (node.visitsAt reg index rest ⟨d, h⟩) := by
        cases taken : node.taken? c with
        | none => exact of_outside index rest agree.left taken
        | some inner =>
          refine of_taken index rest agree.left taken ?_
          exact inside inner (Node.mem_sides_of_taken taken) 0 h
            (agree.left.mono (Node.reads_taken taken))
      by_cases next : (node.run reg ⟨c, h⟩).1 = .ok .next
      · have next' : (node.run reg ⟨d, h⟩).1 = .ok .next := here.result ▸ next
        rw [runFrom_of_next _ _ live next, runFrom_of_next _ _ live next',
          visitsFrom_of_next _ _ live next, visitsFrom_of_next _ _ live next',
          (Accounts.of_node index rest ⟨c, h⟩ node).exit_eq,
          (Accounts.of_node index rest ⟨d, h⟩ node).exit_eq, here.handle, here.writes]
        -- The same writes have been made to both contexts, so that they agree behind the node too.
        have later := ih (index + 1) (node.run reg ⟨d, h⟩).2.handle (agree.right.insertAll
          ((node.visitsAt reg index rest ⟨d, h⟩).filterMap (Visit.write? reg)))
        refine ⟨later.result, later.handle, ?_⟩
        rw [List.filterMap_append, List.filterMap_append, here.writes, later.writes]
      · have ended : (node.run reg ⟨d, h⟩).1 ≠ .ok .next := here.result ▸ next
        rw [runFrom_of_ended _ _ live next, runFrom_of_ended _ _ live ended,
          visitsFrom_of_ended _ _ live next, visitsFrom_of_ended _ _ live ended]
        refine ⟨?_, here.handle, here.writes⟩
        rw [Outcome.placed, Outcome.placed, here.result]

end Alike

section

variable {reg : Registry} {s : State} {node : Node}

theorem Node.write?_name {p : String × Value} (writes : node.write? reg s = some p) :
    p.1 ∈ node.saves := by
  cases saves : node.saving? reg s with
  | none =>
    rw [Node.write?_of_silent saves] at writes
    cases writes
  | some saving =>
    rw [Node.write?_of_saving saves] at writes
    obtain ⟨v, _, rfl⟩ := Option.map_eq_some_iff.mp writes
    cases node <;> cases saves <;> exact List.mem_singleton_self _

/-- A branch that is not isolated saves at least what the pipeline saves with which it goes on. -/
theorem Node.saves_taken {context : Context} {inner : Pipeline}
    (taken : node.taken? context = some inner) (shared : node.isolates = false) :
    inner.saves ⊆ node.saves := by
  obtain ⟨condition, onTrue, onFalse, isolated, outcome, rfl, _, side⟩ :=
    node.branch_of_taken taken
  cases shared
  cases outcome <;> cases side <;> simp [saves, sideSaves, Pipeline.saves]

theorem Visited.write?_name {index : Nat} {nodes : Pipeline} {v : Visit} {p : String × Value}
    (visited : Visited reg index s nodes v) (writes : v.write? reg = some p) :
    p.1 ∈ nodes.saves := by
  induction visited with
  | here => exact List.mem_append_left _ (Node.write?_name writes)
  | @inside _ w _ node _ _ _ taken _ ih =>
    cases isolates : node.isolates with
    | true => simp [Visit.write?, Visit.within, isolates] at writes
    | false =>
      have inner : w.write? reg = some p := by
        simpa [Visit.write?, Visit.within, isolates] using writes
      exact List.mem_append_left _ (Node.saves_taken taken isolates (ih inner))
  | later _ _ _ ih => exact List.mem_append_right _ (ih writes)

end

theorem Pipeline.execute_context (reg : Registry) (pipeline : Pipeline) (s : State) :
    (pipeline.execute reg s).2.context = s.context.insertAll (pipeline.writes reg s) :=
  (Accounts.of_level 0 s pipeline).context

/-- Two contexts that agree under the names that a pipeline reads give the same outcome, the same
calls and the same writes, and under a name that is not written either keeps its entry. Written
are only names under which the pipeline saves outside of isolated branches, and an entry may be
replaced but never goes. -/
theorem Pipeline.execute_footprint (reg : Registry) (pipeline : Pipeline) :
    (∀ c d handle, Context.Agree pipeline.reads c d →
      (pipeline.execute reg ⟨c, handle⟩).1 = (pipeline.execute reg ⟨d, handle⟩).1 ∧
      (pipeline.execute reg ⟨c, handle⟩).2.handle = (pipeline.execute reg ⟨d, handle⟩).2.handle ∧
      ∀ name,
        (name ∈ pipeline.written reg ⟨c, handle⟩ ∧ name ∈ pipeline.written reg ⟨d, handle⟩ ∧
          ∃ v, (pipeline.execute reg ⟨c, handle⟩).2.context.find? name = some v ∧
            (pipeline.execute reg ⟨d, handle⟩).2.context.find? name = some v) ∨
        (name ∉ pipeline.written reg ⟨c, handle⟩ ∧ name ∉ pipeline.written reg ⟨d, handle⟩ ∧
          (pipeline.execute reg ⟨c, handle⟩).2.context.find? name = c.find? name ∧
          (pipeline.execute reg ⟨d, handle⟩).2.context.find? name = d.find? name)) ∧
    (∀ s name, name ∈ pipeline.written reg s → name ∈ pipeline.saves) ∧
    (∀ s name, name ∉ pipeline.saves →
      (pipeline.execute reg s).2.context.find? name = s.context.find? name) ∧
    ∀ s name, (s.context.find? name).isSome →
      ((pipeline.execute reg s).2.context.find? name).isSome := by
  have kept (s : State) (name : String) (absent : name ∉ pipeline.written reg s) :
      (pipeline.execute reg s).2.context.find? name = s.context.find? name := by
    rw [pipeline.execute_context]
    exact SortedMap.find?_insertAll_of_notMem absent
  have saved (s : State) (name : String) (present : name ∈ pipeline.written reg s) :
      name ∈ pipeline.saves := by
    obtain ⟨p, member, rfl⟩ := List.mem_map.mp present
    obtain ⟨v, member, writes⟩ := List.mem_filterMap.mp member
    exact (visited_of_mem member).write?_name writes
  refine ⟨?_, saved, fun s name outside => kept s name (mt (saved s name) outside), ?_⟩
  · intro c d handle agree
    have alike : Alike reg (pipeline.run reg ⟨c, handle⟩) (pipeline.run reg ⟨d, handle⟩)
        (pipeline.visits reg ⟨c, handle⟩) (pipeline.visits reg ⟨d, handle⟩) :=
      Alike.of_level 0 handle agree
    have writes : pipeline.writes reg ⟨c, handle⟩ = pipeline.writes reg ⟨d, handle⟩ := alike.writes
    have same : pipeline.written reg ⟨c, handle⟩ = pipeline.written reg ⟨d, handle⟩ :=
      congrArg (List.map Prod.fst) writes
    refine ⟨congrArg (Except.map Flow.value?) alike.result, alike.handle, fun name => ?_⟩
    by_cases present : name ∈ pipeline.written reg ⟨c, handle⟩
    · obtain ⟨v, found⟩ := SortedMap.find?_insertAll_of_mem present
      refine .inl ⟨present, same ▸ present, v, ?_, ?_⟩
      · rw [pipeline.execute_context]
        exact found c
      · rw [pipeline.execute_context, ← writes]
        exact found d
    · have absent : name ∉ pipeline.written reg ⟨d, handle⟩ := same ▸ present
      exact .inr ⟨present, absent, kept _ name present, kept _ name absent⟩
  · intro s name found
    by_cases present : name ∈ pipeline.written reg s
    · obtain ⟨v, found⟩ := SortedMap.find?_insertAll_of_mem present
      rw [pipeline.execute_context, found s.context]
      rfl
    · rw [kept s name present]
      exact found

/-- The second context has one entry more that no term names. Its run fails as the first one does
and keeps the same list, and what the isolated branch saves is not there. -/
theorem execute_footprint_unread_entry :
    let reg : Registry := ⟨.ofList [("echo", .echo)], .empty⟩
    let filter : Node := .filter ⟨.read "items",
      .compare (some (.read "element")) .notEqual (some (.literal .nil)), false, "element", "kept"⟩
    let hidden : Node := .query ⟨"echo", .read "kept", "hidden"⟩
    let pipeline : Pipeline :=
      [filter, .branch (.all []) (some [hidden]) none true, .ret (.read "missing")]
    let c : Context := SortedMap.empty.insert "items" (.list [.nil, .bool true])
    let d : Context := c.insert "unread" .nil
    let kept : Value := .list [.bool true]
    let e : RunError := .node 2 .ret (.term (.notInContext "missing"))
    let h : Handle := ⟨[⟨"echo", kept⟩], false⟩
    (pipeline.reads = ["items", "element", "kept", "missing"] ∧ pipeline.saves = ["kept"] ∧
      Context.Agree pipeline.reads c d ∧
      pipeline.execute reg ⟨c, .fresh⟩ = (.error e, ⟨c.insert "kept" kept, h⟩)) ∧
    (pipeline.execute reg ⟨d, .fresh⟩).1 = .error e ∧
    (pipeline.execute reg ⟨d, .fresh⟩).2.handle = h ∧
    (pipeline.execute reg ⟨d, .fresh⟩).2.context.find? "kept" = some kept ∧
    ("hidden" ∉ pipeline.saves ∧
      (pipeline.execute reg ⟨d, .fresh⟩).2.context.find? "hidden" = none) ∧
    (d.find? "unread").isSome ∧
      ((pipeline.execute reg ⟨d, .fresh⟩).2.context.find? "unread").isSome := by
  intro reg filter hidden pipeline c d kept e h
  have agree : Context.Agree pipeline.reads c d := by
    intro name member
    have other : "unread" ≠ name := by
      rintro rfl
      exact absurd member (by decide)
    exact (SortedMap.find?_insert c _ _ _).trans (if_neg other) |>.symm
  have ended : pipeline.execute reg ⟨c, .fresh⟩ = (.error e, ⟨c.insert "kept" kept, h⟩) := rfl
  have outside : "hidden" ∉ pipeline.saves := by decide
  obtain ⟨alike, _, unsaved, present⟩ := pipeline.execute_footprint reg
  obtain ⟨result, handle, entry⟩ := alike c d .fresh agree
  rw [ended] at result handle
  refine ⟨⟨rfl, rfl, agree, ended⟩, result.symm, handle.symm, ?_,
    ⟨outside, unsaved ⟨d, .fresh⟩ "hidden" outside⟩, rfl, present ⟨d, .fresh⟩ "unread" rfl⟩
  obtain ⟨_, _, v, first, second⟩ | ⟨_, _, first, _⟩ := entry "kept"
  · rw [ended] at first
    rw [second, ← first]
    rfl
  · rw [ended] at first
    cases first

end RulePipeline
