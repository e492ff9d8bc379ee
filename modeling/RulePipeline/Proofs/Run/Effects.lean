import Mathlib.Data.List.Basic
import RulePipeline.Proofs.Except
import RulePipeline.Proofs.Run.Visits
import RulePipeline.Proofs.SortedMap

/-! What the nodes of a run do by themselves. Each of them calls at most one source and writes at
most one value; the calls of a run, and what it leaves in the context, are those of the nodes that
it visits. -/
namespace RulePipeline

/-- The call that a query makes, if it comes to one. -/
def Query.call? (reg : Registry) (context : Context) (q : Query) : Option Call := do
  let params ← (q.params.eval context).toOption
  let source ← reg.sources.find? q.source
  (source.param.convert params).map (Call.mk q.source)

/-- The response to a query, and the handle behind it. -/
def Query.answer (reg : Registry) (s : State) (q : Query) : Except RunError Value × Handle :=
  match evalTerm s.context q.params with
  | .error e => (.error e, s.handle)
  | .ok params =>
    match reg.sources.find? q.source with
    | none => (.error (.sourceNotFound q.source), s.handle)
    | some source =>
      let (response, handle) := source.query q.source s.handle params
      (response.mapError (.source q.source), handle)

/-- A node that saves a value: its name, the value or what there is instead, and the handle
behind it. -/
structure Saving where
  name : String
  value : Except RunError Value
  handle : Handle

namespace Node

def call? (reg : Registry) (context : Context) : Node → Option Call
  | .query q => q.call? reg context
  | _ => none

def saving? (reg : Registry) (s : State) : Node → Option Saving
  | .query q => some ⟨q.saveTo, (q.answer reg s).1, (q.answer reg s).2⟩
  | .filter f => some ⟨f.saveTo, f.result s.context, s.handle⟩
  | .fold f => some ⟨f.saveTo, f.result reg s.context, s.handle⟩
  | _ => none

/-- What a node itself writes. -/
def write? (reg : Registry) (s : State) (node : Node) : Option (String × Value) :=
  (node.saving? reg s).bind fun saving => saving.value.toOption.map (Prod.mk saving.name)

end Node

section

variable {reg : Registry} {s : State} {node : Node}

theorem Query.run_eq_saveResult (q : Query) :
    q.run reg s = State.saveResult ⟨s.context, (q.answer reg s).2⟩ q.saveTo (q.answer reg s).1 := by
  unfold Query.run Query.answer
  cases evalTerm s.context q.params with
  | error e => rfl
  | ok params => cases reg.sources.find? q.source <;> rfl

theorem DataSource.query_calls (source : DataSource) (name : String) (h : Handle)
    (params : Value) :
    (source.query name h params).2.calls =
      h.calls ++ ((source.param.convert params).map (Call.mk name)).toList := by
  unfold DataSource.query
  cases source.param.convert params with
  | none => exact (List.append_nil _).symm
  | some v => rfl

theorem Query.answer_calls (q : Query) :
    (q.answer reg s).2.calls = s.handle.calls ++ (q.call? reg s.context).toList := by
  unfold answer call? evalTerm
  cases q.params.eval s.context with
  | error e => exact (List.append_nil _).symm
  | ok params =>
    rw [mapError_ok]
    cases reg.sources.find? q.source with
    | none => exact (List.append_nil _).symm
    | some source => exact source.query_calls q.source s.handle params

/-- A query that is answered has called its source. -/
theorem Query.call?_of_answer {q : Query} {v : Value} (answered : (q.answer reg s).1 = .ok v) :
    ∃ call, q.call? reg s.context = some call := by
  unfold answer evalTerm at answered
  unfold call?
  cases evaluated : q.params.eval s.context with
  | error e => simp [evaluated] at answered
  | ok params =>
    cases found : reg.sources.find? q.source with
    | none => simp [evaluated, found] at answered
    | some source =>
      cases converted : source.param.convert params with
      | none => simp [evaluated, found, DataSource.query, converted] at answered
      | some param => exact ⟨⟨q.source, param⟩, by simp [converted, Except.toOption]⟩

theorem Node.run_of_saving {saving : Saving} (saves : node.saving? reg s = some saving) :
    node.run reg s = State.saveResult ⟨s.context, saving.handle⟩ saving.name saving.value := by
  cases node with
  | query q =>
    cases saves
    exact q.run_eq_saveResult
  | filter f =>
    cases saves
    rfl
  | fold f =>
    cases saves
    rfl
  | _ => cases saves

theorem Node.write?_of_saving {saving : Saving} (saves : node.saving? reg s = some saving) :
    node.write? reg s = saving.value.toOption.map (Prod.mk saving.name) := by
  rw [write?, saves]
  rfl

theorem Node.saving_calls {saving : Saving} (saves : node.saving? reg s = some saving) :
    saving.handle.calls = s.handle.calls ++ (node.call? reg s.context).toList := by
  cases node with
  | query q =>
    cases saves
    exact q.answer_calls
  | filter f =>
    cases saves
    exact (List.append_nil _).symm
  | fold f =>
    cases saves
    exact (List.append_nil _).symm
  | _ => cases saves

/-- A node that neither saves a value nor goes on with a pipeline leaves the state as it is. -/
theorem Node.run_silent (silent : node.saving? reg s = none)
    (outside : node.taken? s.context = none) : (node.run reg s).2 = s := by
  cases node with
  | branch condition onTrue onFalse isolated =>
    obtain ⟨e, fails⟩ := Node.run_branch_outside outside
    rw [fails reg s rfl]
  | ret value =>
    simp only [Node.run]
    split <;> rfl
  | stop => rfl
  | _ => cases silent

theorem Node.call?_of_silent (silent : node.saving? reg s = none) :
    node.call? reg s.context = none := by
  cases node with
  | query q => cases silent
  | _ => rfl

theorem Node.saving?_of_taken {inner : Pipeline} (taken : node.taken? s.context = some inner) :
    node.saving? reg s = none := by
  obtain ⟨condition, onTrue, onFalse, isolated, outcome, rfl, _⟩ := node.branch_of_taken taken
  rfl

theorem Node.write?_of_silent (silent : node.saving? reg s = none) : node.write? reg s = none := by
  rw [write?, silent]
  rfl

end

namespace Visit

def call? (reg : Registry) (v : Visit) : Option Call := v.node.call? reg v.before.context

/-- What the visit writes into the context of the caller of the run. -/
def write? (reg : Registry) (v : Visit) : Option (String × Value) :=
  if v.entry.isSome then none else v.node.write? reg v.before

end Visit

section

variable {reg : Registry} {s : State} {node : Node}

theorem filterMap_cons_toList {α β : Type} (f : α → Option β) (a : α) (rest : List α) :
    (a :: rest).filterMap f = (f a).toList ++ rest.filterMap f := by
  simp only [List.filterMap_eq_flatMap_toList, List.flatMap_cons]

theorem Node.calls_visitsAt (index : Nat) (rest : Pipeline) :
    (node.visitsAt reg index rest s).filterMap (Visit.call? reg) =
      (node.call? reg s.context).toList ++ (node.visits reg s).filterMap (Visit.call? reg) := by
  rw [visitsAt, filterMap_cons_toList, List.filterMap_map]
  rfl

/-- An isolated branch hides what is written inside of it. -/
theorem Node.writes_visitsAt (index : Nat) (rest : Pipeline) :
    (node.visitsAt reg index rest s).filterMap (Visit.write? reg) =
      (node.write? reg s).toList ++
        if node.isolates then [] else (node.visits reg s).filterMap (Visit.write? reg) := by
  have here : (⟨[index], node, s, none, rest⟩ : Visit).write? reg = node.write? reg s := rfl
  have inside : Visit.write? reg ∘ Visit.within index node s rest =
      fun v => if node.isolates then none else v.write? reg := by
    funext v
    cases isolates : node.isolates <;> simp [Visit.write?, Visit.within, isolates]
  rw [visitsAt, filterMap_cons_toList, here, List.filterMap_map, inside]
  cases node.isolates with
  | true => simp only [if_true, List.filterMap_none]
  | false => rfl

end

/-- What stands in `t` and not in `s` is due to the visits. -/
structure Accounts (reg : Registry) (s t : State) (visits : List Visit) : Prop where
  calls : t.handle.calls = s.handle.calls ++ visits.filterMap (Visit.call? reg)
  context : t.context = s.context.insertAll (visits.filterMap (Visit.write? reg))

namespace Accounts

variable {reg : Registry} {s t u : State} {node : Node}

theorem refl : Accounts reg s s [] := ⟨(List.append_nil _).symm, rfl⟩

theorem trans {front back : List Visit} (first : Accounts reg s t front)
    (second : Accounts reg t u back) : Accounts reg s u (front ++ back) where
  calls := by
    rw [second.calls, first.calls, List.filterMap_append, List.append_assoc]
  context := by
    rw [second.context, first.context, List.filterMap_append, SortedMap.insertAll_append]

theorem of_outside (index : Nat) (rest : Pipeline) (outside : node.taken? s.context = none) :
    Accounts reg s (node.run reg s).2 (node.visitsAt reg index rest s) := by
  have calls : (node.visitsAt reg index rest s).filterMap (Visit.call? reg) =
      (node.call? reg s.context).toList := by
    rw [Node.calls_visitsAt, Node.visits_outside outside]
    exact List.append_nil _
  have writes : (node.visitsAt reg index rest s).filterMap (Visit.write? reg) =
      (node.write? reg s).toList := by
    rw [Node.writes_visitsAt, Node.visits_outside outside, List.filterMap_nil, ite_self,
      List.append_nil]
  cases saves : node.saving? reg s with
  | none =>
    rw [Node.run_silent saves outside]
    constructor
    · rw [calls, Node.call?_of_silent saves]
      exact (List.append_nil _).symm
    · rw [writes, Node.write?_of_silent saves]
      rfl
  | some saving =>
    rw [Node.run_of_saving saves]
    constructor
    · rw [calls, ← Node.saving_calls saves]
      cases saving.value <;> rfl
    · rw [writes, Node.write?_of_saving saves]
      cases saving.value <;> rfl

theorem of_taken {inner : Pipeline} (index : Nat) (rest : Pipeline)
    (taken : node.taken? s.context = some inner)
    (inside : Accounts reg s (inner.run reg s).2 (inner.visits reg s)) :
    Accounts reg s (node.run reg s).2 (node.visitsAt reg index rest s) := by
  have silent : node.saving? reg s = none := Node.saving?_of_taken taken
  rw [Node.run_taken taken]
  constructor
  · rw [Node.calls_visitsAt, Node.call?_of_silent silent, Node.visits_taken taken]
    rw [State.leave_handle]
    exact inside.calls
  · rw [Node.writes_visitsAt, Node.write?_of_silent silent, Node.visits_taken taken]
    cases node.isolates with
    | true => rfl
    | false => exact inside.context

theorem of_inner (index : Nat) (rest : Pipeline)
    (inside : ∀ inner ∈ node.sides, Accounts reg s (inner.run reg s).2 (inner.visits reg s)) :
    Accounts reg s (node.run reg s).2 (node.visitsAt reg index rest s) := by
  cases taken : node.taken? s.context with
  | none => exact of_outside index rest taken
  | some inner => exact of_taken index rest taken (inside inner (Node.mem_sides_of_taken taken))

theorem of_level (index : Nat) (s : State) (nodes : Pipeline) :
    Accounts reg s (runFrom reg index s nodes).2 (visitsFrom reg index s nodes) := by
  induction nodes using Pipeline.tree_induction generalizing index s with
  | nil => exact refl
  | cons node rest inside ih =>
    cases live : s.handle.cancelled with
    | true =>
      rw [runFrom_cancelled _ _ _ _ live, visitsFrom_cancelled _ _ live]
      exact refl
    | false =>
      have here : Accounts reg s (node.run reg s).2 (node.visitsAt reg index rest s) :=
        of_inner index rest fun inner member => inside inner member 0 s
      by_cases next : (node.run reg s).1 = .ok .next
      · rw [runFrom_of_next _ _ live next, visitsFrom_of_next _ _ live next]
        exact here.trans (ih (index + 1) _)
      · rw [runFrom_of_ended _ _ live next, visitsFrom_of_ended _ _ live next]
        exact here

theorem of_node (index : Nat) (rest : Pipeline) (s : State) (node : Node) :
    Accounts reg s (node.run reg s).2 (node.visitsAt reg index rest s) :=
  of_inner index rest fun inner _ => of_level 0 s inner

end Accounts

end RulePipeline
