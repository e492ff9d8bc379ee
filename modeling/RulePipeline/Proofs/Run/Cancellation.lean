import RulePipeline.Proofs.Run.Effects
import RulePipeline.Proofs.Run.Failing
import RulePipeline.Proofs.Run.Inlining

/-! Cancelled runs. A run can only be cancelled from the start or by the source that answers a
query. Nothing starts behind this query: its own write stands, and the run ends as cancelled if
there are nodes left at any level, and else as if it had not been cancelled. -/
namespace RulePipeline

variable {reg : Registry}

/-- The visit of a query that leaves the run cancelled. -/
def Visit.Cancels (reg : Registry) (v : Visit) : Prop :=
  ∃ q, v.node = .query q ∧ (q.run reg v.before).2.handle.cancelled = true

theorem Visited.start_live {index : Nat} {s : State} {nodes : Pipeline} {v : Visit}
    (visited : Visited reg index s nodes v) : s.handle.cancelled = false := by
  cases visited <;> assumption

theorem Visited.live {index : Nat} {s : State} {nodes : Pipeline} {v : Visit}
    (visited : Visited reg index s nodes v) : v.before.handle.cancelled = false := by
  induction visited with
  | here live => exact live
  | inside _ _ _ ih => exact ih
  | later _ _ _ ih => exact ih

/-- How a run ends that is cancelled by a query with this result, and with `behind` left to do. -/
def endOfCancelled (behind : Pipeline) : Except RunError Flow → Except RunError Flow
  | .error cause => .error cause.root
  | .ok flow => if behind.isEmpty then .ok flow else .error .cancelled

theorem unplaced_run_cancelled {t : State} (rest : Pipeline) (cancelled : t.handle.cancelled = true) :
    unplaced (rest.run reg t) = (endOfCancelled rest (.ok .next), t) := by
  cases rest with
  | nil => rfl
  | cons node rest =>
    rw [Pipeline.run, runFrom_cancelled _ _ _ _ cancelled]
    rfl

theorem Query.flow_eq_next {q : Query} {s t : State} {flow : Flow}
    (ran : q.run reg s = (.ok flow, t)) : flow = .next := by
  rw [q.run_eq_saveResult] at ran
  cases answered : (q.answer reg s).1 with
  | error e =>
    rw [answered] at ran
    cases ran
  | ok v =>
    rw [answered] at ran
    cases ran
    rfl

theorem unplaced_andThen_cancelled {t : State} (behind rest : Pipeline)
    {result : Except RunError Flow} (flow : ∀ f, result = .ok f → f = .next)
    (cancelled : t.handle.cancelled = true) :
    Outcome.andThen (endOfCancelled behind result, t) (fun u => unplaced (rest.run reg u)) =
      (endOfCancelled (behind ++ rest) result, t) := by
  cases result with
  | error cause => rfl
  | ok f =>
    cases flow f rfl
    cases behind with
    | nil => exact unplaced_run_cancelled rest cancelled
    | cons node behind => rfl

/-- How a run ends with a query in it that is cancelled by its source. -/
theorem Visited.unplaced_run {index : Nat} {s t : State} {nodes : Pipeline} {v : Visit} {q : Query}
    {result : Except RunError Flow} (visited : Visited reg index s nodes v)
    (query : v.node = .query q) (ran : q.run reg v.before = (result, t))
    (cancelled : t.handle.cancelled = true) :
    unplaced (nodes.run reg s) =
      (endOfCancelled v.behind result, ⟨v.entry.getD t.context, t.handle⟩) := by
  have flow (f : Flow) (ok : result = .ok f) : f = .next := by
    rw [ok] at ran
    exact Query.flow_eq_next ran
  induction visited with
  | @here _ s node rest live =>
    have here : unplaced (node.run reg s) = (endOfCancelled [] result, t) := by
      cases query
      rw [Node.run, ran]
      cases result <;> rfl
    rw [unplaced_cons _ _ live, here]
    exact unplaced_andThen_cancelled [] rest flow cancelled
  | @inside s w _ node rest inner live taken _ ih =>
    have inside := ih query ran
    have ended : (inner.run reg s).1.mapError RunError.root = endOfCancelled w.behind result :=
      congrArg Prod.fst inside
    have exit : (inner.run reg s).2 = ⟨w.entry.getD t.context, t.handle⟩ := congrArg Prod.snd inside
    have leaves : unplaced (node.run reg s) =
        (endOfCancelled w.behind result,
          ⟨(if node.isolates then some s.context else w.entry).getD t.context, t.handle⟩) := by
      rw [Node.run_taken taken, exit, unplaced, ended]
      cases node.isolates <;> rfl
    rw [unplaced_cons _ _ live, leaves]
    exact unplaced_andThen_cancelled w.behind rest flow cancelled
  | @later _ rest _ s node live next _ ih =>
    have goes : node.run reg s = (.ok .next, (node.run reg s).2) := Prod.ext next rfl
    rw [unplaced_cons _ _ live, goes]
    exact ih query ran

theorem Visited.exit_cancelled {index : Nat} {s : State} {nodes : Pipeline} {v : Visit}
    (visited : Visited reg index s nodes v) (cancels : v.Cancels reg) :
    (nodes.run reg s).2.handle.cancelled = true := by
  obtain ⟨q, query, cancelled⟩ := cancels
  cases ran : q.run reg v.before with
  | mk result t =>
    rw [ran] at cancelled
    have exit : (nodes.run reg s).2 = ⟨v.entry.getD t.context, t.handle⟩ :=
      congrArg Prod.snd (visited.unplaced_run query ran cancelled)
    rw [exit]
    exact cancelled

/-- A node is left cancelled by a query that is visited at it. -/
theorem Node.exit_cancelled {index : Nat} {s : State} {rest : Pipeline} {node : Node} {v : Visit}
    (member : v ∈ node.visitsAt reg index rest s) (cancels : v.Cancels reg) :
    (node.run reg s).2.handle.cancelled = true := by
  rcases Node.mem_visitsAt member with rfl | ⟨inner, w, taken, found, rfl⟩
  · obtain ⟨q, query, cancelled⟩ := cancels
    cases query
    exact cancelled
  · rw [Node.run_taken taken, State.leave_handle]
    exact (visited_of_mem found).exit_cancelled cancels

/-- No visit follows one that leaves the run cancelled. -/
theorem visits_pairwise (index : Nat) (s : State) (nodes : Pipeline) :
    (visitsFrom reg index s nodes).Pairwise fun v _ => ¬ v.Cancels reg := by
  induction nodes using Pipeline.tree_induction generalizing index s with
  | nil => exact .nil
  | cons node rest inside ih =>
    cases live : s.handle.cancelled with
    | true =>
      rw [visitsFrom_cancelled _ _ live]
      exact .nil
    | false =>
      have here : (node.visitsAt reg index rest s).Pairwise fun v _ => ¬ v.Cancels reg := by
        refine List.pairwise_cons.mpr ⟨?_, ?_⟩
        -- A node that cancels is a query, and a query has no visits inside of it.
        · rintro w member ⟨q, query, _⟩
          cases query
          cases member
        · rw [List.pairwise_map]
          cases taken : node.taken? s.context with
          | none =>
            rw [Node.visits_outside taken]
            exact .nil
          | some inner =>
            rw [Node.visits_taken taken]
            exact inside inner (Node.mem_sides_of_taken taken) 0 s
      by_cases next : (node.run reg s).1 = .ok .next
      · rw [visitsFrom_of_next _ _ live next]
        refine List.pairwise_append.mpr ⟨here, ih (index + 1) _, ?_⟩
        intro v first w later cancels
        rw [visitsFrom_cancelled _ _ (Node.exit_cancelled first cancels)] at later
        cases later
      · rw [visitsFrom_of_ended _ _ live next]
        exact here

/-- The same answers, and the run goes on. -/
def DataSource.uncancelling (source : DataSource) : DataSource :=
  { source with answer := fun h v => { source.answer h v with cancels := false } }

def Registry.uncancelling (reg : Registry) : Registry :=
  { reg with sources := reg.sources.map DataSource.uncancelling }

/-- The state of a run that is cancelled or not as another one is. -/
def State.cancelledAs (t s : State) : State :=
  { t with handle := { t.handle with cancelled := s.handle.cancelled } }

theorem State.cancelledAs_eq {s t : State} (same : s.handle.cancelled = t.handle.cancelled) :
    t.cancelledAs s = t := by
  rw [cancelledAs, same]

theorem DataSource.query_uncancelling (source : DataSource) (name : String) (h : Handle)
    (params : Value) :
    source.uncancelling.query name h params =
      ((source.query name h params).1, ⟨(source.query name h params).2.calls, h.cancelled⟩) := by
  unfold query
  have same : source.uncancelling.param = source.param := rfl
  rw [same]
  cases source.param.convert params with
  | none => rfl
  | some v =>
    simp only [uncancelling, Bool.or_false]

theorem Query.run_uncancelling (q : Query) (s : State) :
    q.run reg.uncancelling s = ((q.run reg s).1, (q.run reg s).2.cancelledAs s) := by
  have found : reg.uncancelling.sources.find? q.source =
      (reg.sources.find? q.source).map DataSource.uncancelling := SortedMap.find?_map _ _ _
  unfold Query.run
  cases evalTerm s.context q.params with
  | error e => rfl
  | ok params =>
    simp only [found]
    cases reg.sources.find? q.source with
    | none => rfl
    | some source =>
      simp only [Option.map_some, DataSource.query_uncancelling]
      cases (source.query q.source s.handle params).1 <;> rfl

theorem runFrom_exit_of_cancelled (index : Nat) {s : State} (nodes : Pipeline)
    (cancelled : s.handle.cancelled = true) : (runFrom reg index s nodes).2 = s := by
  cases nodes with
  | nil => rfl
  | cons node rest => rw [runFrom_cancelled _ _ _ _ cancelled]

/-- A node that ends live has not asked a source that cancels. -/
theorem Node.run_uncancelling {node : Node} {s : State} (live : s.handle.cancelled = false)
    (exit : (node.run reg s).2.handle.cancelled = false)
    (inside : ∀ inner ∈ node.sides, (inner.run reg s).2.handle.cancelled = false →
      inner.run reg.uncancelling s = inner.run reg s) :
    node.run reg.uncancelling s = node.run reg s := by
  cases node with
  | query q =>
    have same := State.cancelledAs_eq (live.trans exit.symm)
    rw [Node.run, Node.run, q.run_uncancelling]
    exact congrArg (Prod.mk _) same
  | branch condition onTrue onFalse isolated =>
    cases taken : Node.taken? s.context (.branch condition onTrue onFalse isolated) with
    | some inner =>
      rw [Node.run_taken taken, State.leave_handle] at exit
      rw [Node.run_taken taken, Node.run_taken taken,
        inside inner (Node.mem_sides_of_taken taken) exit]
    | none =>
      obtain ⟨e, fails⟩ := Node.run_branch_outside taken
      rw [fails reg.uncancelling s rfl, fails reg s rfl]
  | _ => rfl

theorem runFrom_uncancelling (index : Nat) (s : State) (nodes : Pipeline)
    (exit : (runFrom reg index s nodes).2.handle.cancelled = false) :
    runFrom reg.uncancelling index s nodes = runFrom reg index s nodes := by
  induction nodes using Pipeline.tree_induction generalizing index s with
  | nil => rfl
  | cons node rest inside ih =>
    cases live : s.handle.cancelled with
    | true => rw [runFrom_cancelled _ _ _ _ live, runFrom_cancelled _ _ _ _ live]
    | false =>
      by_cases next : (node.run reg s).1 = .ok .next
      · rw [runFrom_of_next _ _ live next] at exit ⊢
        have between : (node.run reg s).2.handle.cancelled = false := by
          rw [Bool.eq_false_iff]
          intro cancelled
          rw [runFrom_exit_of_cancelled _ _ cancelled, cancelled] at exit
          cases exit
        have same : node.run reg.uncancelling s = node.run reg s :=
          Node.run_uncancelling live between fun inner member => inside inner member 0 s
        rw [runFrom_of_next _ _ live (same ▸ next), same]
        exact ih (index + 1) _ exit
      · rw [runFrom_of_ended _ _ live next] at exit ⊢
        have same : node.run reg.uncancelling s = node.run reg s :=
          Node.run_uncancelling live exit fun inner member => inside inner member 0 s
        rw [runFrom_of_ended _ _ live (same ▸ next), same]

/-- With nothing left to do behind the query that is cancelled, the run is the one without the
cancellation. -/
theorem Visited.run_uncancelling {index : Nat} {s t : State} {nodes : Pipeline} {v : Visit}
    {q : Query} {flow : Flow} (visited : Visited reg index s nodes v) (query : v.node = .query q)
    (ran : q.run reg v.before = (.ok flow, t)) (last : v.behind = []) :
    runFrom reg.uncancelling index s nodes =
      (.ok .next, ⟨v.entry.getD t.context, ⟨t.handle.calls, false⟩⟩) := by
  induction visited with
  | @here _ s node rest live =>
    cases query
    cases last
    cases Query.flow_eq_next ran
    rw [runFrom_live _ _ _ _ live, Node.run, q.run_uncancelling, ran, Outcome.placed_ok,
      Outcome.andThen_next, runFrom_nil, State.cancelledAs, live]
    rfl
  | @inside s w _ node rest inner live taken _ ih =>
    obtain ⟨innerLast, rfl⟩ := List.append_eq_nil_iff.mp last
    have inside : inner.run reg.uncancelling s = _ := ih query ran innerLast
    rw [runFrom_live _ _ _ _ live, Node.run_taken taken, inside, Outcome.placed_ok,
      Outcome.andThen_next, runFrom_nil]
    cases isolates : node.isolates <;> simp [Visit.within, State.leave, isolates]
  | @later _ rest _ s node live next visited ih =>
    -- The run goes on behind this node to the query, so that it was live there.
    have same : node.run reg.uncancelling s = node.run reg s :=
      Node.run_uncancelling live visited.start_live fun inner _ exit =>
        runFrom_uncancelling 0 s inner exit
    rw [runFrom_of_next _ _ live (same ▸ next), same]
    exact ih query ran last

theorem State.saveResult_handle (s : State) (name : String) (r : Except RunError Value) :
    (s.saveResult name r).2.handle = s.handle := by
  cases r <;> rfl

/-- By itself, no node but a query has to do with the handle. -/
theorem Node.run_handle {node : Node} {s : State} (outside : node.taken? s.context = none)
    (other : ∀ q, node ≠ .query q) : (node.run reg s).2.handle = s.handle := by
  cases node with
  | query q => exact absurd rfl (other q)
  | filter f => exact s.saveResult_handle _ _
  | fold f => exact s.saveResult_handle _ _
  | _ => rw [Node.run_silent rfl outside]

/-- Where a run is cancelled on its way, a query that it visits is answered by a source that
cancels it. -/
theorem exists_cancels (index : Nat) (s : State) (nodes : Pipeline)
    (live : s.handle.cancelled = false)
    (exit : (runFrom reg index s nodes).2.handle.cancelled = true) :
    ∃ v ∈ visitsFrom reg index s nodes, v.Cancels reg := by
  induction nodes using Pipeline.tree_induction generalizing index s with
  | nil =>
    rw [runFrom_nil, live] at exit
    cases exit
  | cons node rest inside ih =>
    have here (exit : (node.run reg s).2.handle.cancelled = true) :
        ∃ v ∈ node.visitsAt reg index rest s, v.Cancels reg := by
      cases taken : node.taken? s.context with
      | some inner =>
        rw [Node.run_taken taken, State.leave_handle] at exit
        obtain ⟨w, found, cancels⟩ := inside inner (Node.mem_sides_of_taken taken) 0 s live exit
        rw [Node.visitsAt, Node.visits_taken taken]
        exact ⟨_, List.mem_cons_of_mem _ (List.mem_map_of_mem found), cancels⟩
      | none =>
        by_cases query : ∃ q, node = .query q
        · obtain ⟨q, rfl⟩ := query
          exact ⟨_, List.mem_cons_self, q, rfl, exit⟩
        · rw [Node.run_handle taken (not_exists.mp query), live] at exit
          cases exit
    by_cases next : (node.run reg s).1 = .ok .next
    · rw [runFrom_of_next _ _ live next] at exit
      rw [visitsFrom_of_next _ _ live next]
      cases between : (node.run reg s).2.handle.cancelled with
      | true =>
        obtain ⟨v, member, cancels⟩ := here between
        exact ⟨v, List.mem_append_left _ member, cancels⟩
      | false =>
        obtain ⟨v, member, cancels⟩ := ih (index + 1) _ between exit
        exact ⟨v, List.mem_append_right _ member, cancels⟩
    · rw [runFrom_of_ended _ _ live next] at exit
      rw [visitsFrom_of_ended _ _ live next]
      exact here exit

theorem Query.root_of_error {q : Query} {s t : State} {cause : RunError}
    (failed : q.run reg s = (.error cause, t)) : cause.root = cause := by
  have raised := (Query.run_error failed).1
  cases raised <;> rfl

theorem Query.find?_of_run {q : Query} {s t : State} {result : Except RunError Flow} {name : String}
    (ran : q.run reg s = (result, t)) (other : name ≠ q.saveTo) :
    t.context.find? name = s.context.find? name := by
  rw [q.run_eq_saveResult] at ran
  cases answered : (q.answer reg s).1 with
  | error e =>
    rw [answered] at ran
    cases ran
    rfl
  | ok v =>
    rw [answered] at ran
    cases ran
    exact (SortedMap.find?_insert _ _ _ _).trans (if_neg (Ne.symm other))

/-- A run that starts cancelled visits nothing. Any other is cancelled by a query only: this is the
last visit, so that no other source is called and nothing but its own name is written. Where it
fails its failure is the root; else the run fails as cancelled if there are nodes left behind it,
and if there are none it ends as it would have without the cancellation. -/
theorem Pipeline.execute_cancelled (reg : Registry) :
    (∀ pipeline s, s.handle.cancelled = true →
      Pipeline.visits reg pipeline s = [] ∧
      Pipeline.execute reg pipeline s =
        (if pipeline.isEmpty then .ok none else .error .cancelled, s)) ∧
    (∀ pipeline s, s.handle.cancelled = false →
      (Pipeline.execute reg pipeline s).2.handle.cancelled = true →
      ∃ v ∈ Pipeline.visits reg pipeline s, v.Cancels reg) ∧
    (∀ pipeline s, ∀ v ∈ Pipeline.visits reg pipeline s, v.before.handle.cancelled = false) ∧
    ∀ pipeline s front v back q result t,
      Pipeline.visits reg pipeline s = front ++ v :: back → v.node = .query q →
      q.run reg v.before = (result, t) → t.handle.cancelled = true →
      back = [] ∧ (Pipeline.execute reg pipeline s).2 = ⟨v.entry.getD t.context, t.handle⟩ ∧
      (∀ name, name ≠ q.saveTo → (Pipeline.execute reg pipeline s).2.context.find? name =
        (v.entry.getD v.before.context).find? name) ∧
      (∀ cause, result = .error cause →
        ∃ e, (Pipeline.execute reg pipeline s).1 = .error e ∧ e.root = cause) ∧
      (∀ flow, result = .ok flow → v.behind ≠ [] →
        ∃ e, (Pipeline.execute reg pipeline s).1 = .error e ∧ e.root = .cancelled) ∧
      ∀ flow, result = .ok flow → v.behind = [] →
        (Pipeline.execute reg pipeline s).1 = .ok none ∧
        Pipeline.execute reg.uncancelling pipeline s =
          (.ok none, ⟨v.entry.getD t.context, ⟨t.handle.calls, false⟩⟩) := by
  refine ⟨?_, ?_, ?_, ?_⟩
  · intro pipeline s cancelled
    refine ⟨visitsFrom_cancelled 0 pipeline cancelled, ?_⟩
    cases pipeline with
    | nil => rfl
    | cons node rest =>
      rw [execute, run, runFrom_cancelled _ _ _ _ cancelled]
      rfl
  · intro pipeline s live exit
    exact exists_cancels 0 s pipeline live exit
  · intro pipeline s v member
    exact (visited_of_mem member).live
  · intro pipeline s front v back q result t visits query ran cancelled
    have member : v ∈ Pipeline.visits reg pipeline s := by
      rw [visits]
      exact List.mem_append_right _ List.mem_cons_self
    have visited : Visited reg 0 s pipeline v := visited_of_mem member
    have ended := visited.unplaced_run query ran cancelled
    have result_eq : (pipeline.run reg s).1.mapError RunError.root = endOfCancelled v.behind result :=
      congrArg Prod.fst ended
    have exit : (pipeline.run reg s).2 = ⟨v.entry.getD t.context, t.handle⟩ :=
      congrArg Prod.snd ended
    -- An outcome with this root, whatever the places around it.
    have failed (root : RunError) (is : endOfCancelled v.behind result = .error root) :
        ∃ e, (pipeline.execute reg s).1 = .error e ∧ e.root = root := by
      obtain ⟨e, raised, same⟩ := mapError_eq_error.mp (result_eq.trans is)
      exact ⟨e, congrArg (Except.map Flow.value?) raised, same⟩
    refine ⟨?_, exit, ?_, ?_, ?_, ?_⟩
    · have ordered : (front ++ v :: back).Pairwise fun v _ => ¬ v.Cancels reg :=
        visits ▸ visits_pairwise 0 s pipeline
      have later := (List.pairwise_cons.mp (List.pairwise_append.mp ordered).2.1).1
      refine List.eq_nil_iff_forall_not_mem.mpr fun w found => later w found ⟨q, query, ?_⟩
      rw [ran]
      exact cancelled
    · intro name other
      have same : (pipeline.execute reg s).2.context = v.entry.getD t.context :=
        congrArg State.context exit
      rw [same]
      cases v.entry with
      | some entry => rfl
      | none => exact Query.find?_of_run ran other
    · rintro cause rfl
      refine failed cause ?_
      rw [endOfCancelled, Query.root_of_error ran]
    · rintro flow rfl more
      refine failed .cancelled ?_
      rw [endOfCancelled, List.isEmpty_eq_false_iff.mpr more]
      rfl
    · rintro flow rfl last
      cases Query.flow_eq_next ran
      rw [last] at result_eq
      have next : (pipeline.run reg s).1 = .ok .next := mapError_eq_ok.mp result_eq
      refine ⟨congrArg (Except.map Flow.value?) next, ?_⟩
      rw [execute, run, visited.run_uncancelling query ran last]
      rfl

/-- The same cancelling query, the last one of a branch: with a node behind the branch, with none,
and with a source that fails. -/
theorem execute_cancelled_in_branch :
    let cancel (result : Except String Value) : DataSource := ⟨.any, .any, fun _ _ => ⟨result, true⟩⟩
    let reg (result : Except String Value) : Registry :=
      ⟨.ofList [("cancel", cancel result)], .empty⟩
    let query : Query := ⟨"cancel", .literal .nil, "saved"⟩
    let branch : Node := .branch (.all []) (some [.query query]) none false
    let s : State := ⟨.empty, .fresh⟩
    let stopped : Handle := ⟨[⟨"cancel", .nil⟩], true⟩
    let saved : State := ⟨SortedMap.empty.insert "saved" (.bool true), stopped⟩
    let visit (rest : Pipeline) : Visit := ⟨[0, 0], .query query, s, none, rest⟩
    let answers : Registry := reg (.ok (.bool true))
    let fails : Registry := reg (.error "no answer")
    let cause : RunError := .source "cancel" (.query "no answer")
    (Pipeline.visits answers [branch, .stop] s =
        [⟨[0], branch, s, none, [.stop]⟩] ++ visit [.stop] :: [] ∧
      query.run answers s = (.ok .next, saved) ∧ saved.handle.cancelled = true ∧
      (Pipeline.execute answers [branch, .stop] s).2 = saved ∧
      ∃ e, (Pipeline.execute answers [branch, .stop] s).1 = .error e ∧ e.root = .cancelled) ∧
    (Pipeline.visits answers [branch] s = [⟨[0], branch, s, none, []⟩] ++ visit [] :: [] ∧
      (Pipeline.execute answers [branch] s).1 = .ok none) ∧
    (Pipeline.visits fails [branch] s = [⟨[0], branch, s, none, []⟩] ++ visit [] :: [] ∧
      query.run fails s = (.error cause, ⟨.empty, stopped⟩) ∧
      ∃ e, (Pipeline.execute fails [branch] s).1 = .error e ∧ e.root = cause) ∧
    (∃ v ∈ Pipeline.visits answers [branch] s, v.Cancels answers) ∧
    Pipeline.execute answers [branch] saved = (.error .cancelled, saved) := by
  intro cancel reg query branch s stopped saved visit answers fails cause
  obtain ⟨start, way, _, ends⟩ := Pipeline.execute_cancelled answers
  obtain ⟨_, _, _, failed⟩ := Pipeline.execute_cancelled fails
  have answered : query.run answers s = (.ok .next, saved) := rfl
  have broken : query.run fails s = (.error cause, ⟨.empty, stopped⟩) := rfl
  have more := ends [branch, .stop] s [⟨[0], branch, s, none, [.stop]⟩] (visit [.stop]) [] query _
    saved rfl rfl answered rfl
  have last := ends [branch] s [⟨[0], branch, s, none, []⟩] (visit []) [] query _ saved rfl rfl
    answered rfl
  have fail := failed [branch] s [⟨[0], branch, s, none, []⟩] (visit []) [] query _
    ⟨.empty, stopped⟩ rfl rfl broken rfl
  obtain ⟨_, left, _, _, cancelled, _⟩ := more
  obtain ⟨_, _, _, _, _, done⟩ := last
  obtain ⟨_, _, _, raised, _, _⟩ := fail
  exact ⟨⟨rfl, answered, rfl, left, cancelled .next rfl (List.cons_ne_nil _ _)⟩,
    ⟨rfl, (done .next rfl rfl).1⟩, ⟨rfl, broken, raised cause rfl⟩, way [branch] s rfl rfl,
    (start [branch] saved rfl).2⟩

end RulePipeline
