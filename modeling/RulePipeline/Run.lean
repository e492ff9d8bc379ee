import RulePipeline.RunError

/-! Running a pipeline. A node that fails writes nothing itself, and what earlier nodes wrote
stays. Between any two nodes, at every level, a cancelled run stops. -/
namespace RulePipeline

/-- Data sources and aggregators by name. -/
structure Registry where
  sources : SortedMap DataSource
  aggregators : SortedMap Aggregator

/-- How a run goes on after a node: with the next one, or not at all. -/
inductive Flow where
  | next
  | ret (value : Value)
  | stop

/-- The returned value, if the run ends at a return. -/
def Flow.value? : Flow → Option Value
  | .ret v => some v
  | _ => none

structure State where
  context : Context
  handle : Handle

def State.save (s : State) (name : String) (v : Value) : State :=
  { s with context := s.context.insert name v }

abbrev Outcome := Except RunError Flow × State

/-- Goes on with a value saved, or fails and leaves the state as it is. -/
def State.saveResult (s : State) (name : String) : Except RunError Value → Outcome
  | .ok v => (.ok .next, s.save name v)
  | .error e => (.error e, s)

def evalTerm (context : Context) (t : Term) : Except RunError Value :=
  (t.eval context).mapError .term

def Query.run (reg : Registry) (s : State) (q : Query) : Outcome :=
  match evalTerm s.context q.params with
  | .error e => (.error e, s)
  | .ok params =>
    match reg.sources.find? q.source with
    | none => (.error (.sourceNotFound q.source), s)
    | some source =>
      let (response, handle) := source.query q.source s.handle params
      State.saveResult { s with handle } q.saveTo (response.mapError (.source q.source))

namespace Filter

def keeps (f : Filter) (context : Context) (v : Value) : Except RunError Bool := do
  let holds ← (f.condition.eval (context.insert f.elementName v)).mapError .condition
  return holds != f.exclude

/-- The kept members in their order, or the failure of the first that has one. -/
def select (f : Filter) (context : Context) (valueOf : α → Value) :
    List α → Except RunError (List α)
  | [] => .ok []
  | a :: rest => do
    let kept ← f.keeps context (valueOf a)
    let others ← f.select context valueOf rest
    return if kept then a :: others else others

def result (f : Filter) (context : Context) : Except RunError Value := do
  match (← evalTerm context f.source).resolved with
  | .list items => return .list (← f.select context id items)
  | .map entries => return .map (← f.select context Prod.snd entries)
  | v => throw (.notIterable v.kind)

def run (s : State) (f : Filter) : Outcome := s.saveResult f.saveTo (f.result s.context)

end Filter

namespace Fold

def result (reg : Registry) (f : Fold) (context : Context) : Except RunError Value := do
  match reg.aggregators.find? f.aggregator with
  | none => throw (.aggregatorNotFound f.aggregator)
  | some combine =>
    match (← evalTerm context f.source).resolved with
    | .list items =>
      let start ← evalTerm context f.start
      let items := if f.rightToLeft then items.reverse else items
      (Aggregator.fold combine start items).mapError (.aggregation f.aggregator)
    | v => throw (.notIterable v.kind)

def run (reg : Registry) (s : State) (f : Fold) : Outcome :=
  s.saveResult f.saveTo (f.result reg s.context)

end Fold

/-- What an isolated branch leaves behind: its calls and a cancellation, but no writes. -/
def State.leave (entry exit : State) (isolated : Bool) : State :=
  if isolated then { exit with context := entry.context } else exit

mutual

def Node.run (reg : Registry) (s : State) : Node → Outcome
  | .query q => q.run reg s
  | .branch condition onTrue onFalse isolated =>
    match condition.eval s.context with
    | .error e => (.error (.condition e), s)
    | .ok true =>
      let (result, exit) := runSide reg s true onTrue
      (result, s.leave exit isolated)
    | .ok false =>
      let (result, exit) := runSide reg s false onFalse
      (result, s.leave exit isolated)
  | .ret value =>
    match evalTerm s.context value with
    | .error e => (.error e, s)
    | .ok v => (.ok (.ret v), s)
  | .filter f => f.run s
  | .fold f => f.run reg s
  | .stop => (.ok .stop, s)

/-- A side that the branch does not have cannot be taken. -/
def runSide (reg : Registry) (s : State) (outcome : Bool) : Option (List Node) → Outcome
  | none => (.error (.noPipeline outcome), s)
  | some nodes => runFrom reg 0 s nodes

/-- The nodes of one level, the first of them at `index`. -/
def runFrom (reg : Registry) (index : Nat) (s : State) : List Node → Outcome
  | [] => (.ok .next, s)
  | node :: rest =>
    if s.handle.cancelled then (.error .cancelled, s)
    else match node.run reg s with
      | (.ok .next, t) => runFrom reg (index + 1) t rest
      | (.ok flow, t) => (.ok flow, t)
      | (.error e, t) => (.error (.node index node.kind e), t)

end

namespace Pipeline

def run (reg : Registry) (pipeline : Pipeline) (s : State) : Outcome := runFrom reg 0 s pipeline

def execute (reg : Registry) (pipeline : Pipeline) (s : State) :
    Except RunError (Option Value) × State :=
  let (result, t) := pipeline.run reg s
  (result.map Flow.value?, t)

end Pipeline

end RulePipeline
