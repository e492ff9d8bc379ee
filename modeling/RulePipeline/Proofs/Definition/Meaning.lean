import RulePipeline.Definition.Json
import RulePipeline.Proofs.Definition.Literal
import RulePipeline.Run

/-! What definitions mean. A definition is followed as it is written, node by node, with no
pipeline in between: what is left out gets its default where it is needed, and names of comparisons
are looked up where they are used. A definition that is not well formed means nothing at the
place where it is not. -/
namespace RulePipeline

/-- A result or an error, or nothing where a definition has no meaning. -/
abbrev Meaning (ε α : Type) := ExceptT ε Option α

namespace Meaning

def of {ε α : Type} (result : Except ε α) : Meaning ε α := ExceptT.mk (some result)

def undefined {ε α : Type} : Meaning ε α := ExceptT.mk none

end Meaning

namespace TermDef

/-- The nil key stands for one that is absent. -/
def keyMeaning : Option Json → Value
  | some json => .ofJson json
  | none => .nil

/-- Without a getter the entry is taken as it is, whatever the key and the value. -/
def meaning (context : Context) : TermDef → Meaning TermError Value
  | .literal json kind =>
    match literalMeaning? json kind with
    | some v => .of (.ok v)
    | none => .undefined
  | .context name getter key value => do
    let entry ← .of (Term.lookup context name)
    match getter, value with
    | none, _ => return entry
    | some .step, _ => .of ((Getter.step.get entry (some (keyMeaning key))).mapError (.getter name))
    | some .path, _ => .of ((Getter.path.get entry (some (keyMeaning key))).mapError (.getter name))
    | some .constant, some json => return .ofJson json
    | some .constant, none => .undefined

/-- Nil, where there is no term. -/
def optionalMeaning (context : Context) : Option TermDef → Meaning TermError Value
  | some t => t.meaning context
  | none => return .nil

end TermDef

namespace ConditionDef

def sideMeaning (context : Context) (side : Side) (t : TermDef) : Meaning ConditionError Value :=
  (t.meaning context).adapt (.term side)

mutual

def meaning (comparisons : Comparisons) (context : Context) :
    ConditionDef → Meaning ConditionError Bool
  | .compare lhs r rhs =>
    if r = .unset then .undefined
    else do
      let left ← sideMeaning context .left lhs
      let right ← sideMeaning context .right rhs
      .of ((left.compare right r).mapError .comparison)
  | .all children => allMeaning comparisons context children
  | .any children => anyMeaning comparisons context children
  | .not child => do return !(← child.meaning comparisons context)
  | .custom name lhs rhs =>
    match comparisons.find? name with
    | none => .undefined
    | some comparison => do
      let left ← sideMeaning context .left lhs
      let right ← sideMeaning context .right rhs
      .of (comparison.apply left right)

/-- The children behind the first one that is false are not looked at. -/
def allMeaning (comparisons : Comparisons) (context : Context) :
    List (Option ConditionDef) → Meaning ConditionError Bool
  | [] => return true
  | none :: _ => .undefined
  | some c :: rest => do
    if ← c.meaning comparisons context then allMeaning comparisons context rest else return false

/-- The children behind the first one that is true are not looked at. -/
def anyMeaning (comparisons : Comparisons) (context : Context) :
    List (Option ConditionDef) → Meaning ConditionError Bool
  | [] => return false
  | none :: _ => .undefined
  | some c :: rest => do
    if ← c.meaning comparisons context then return true else anyMeaning comparisons context rest

end

end ConditionDef

namespace NodeDef

def query? (reg : Registry) (s : State) (source : String) (params : Option TermDef)
    (saveTo : String) : Option Outcome := do
  match ← (TermDef.optionalMeaning s.context params).run with
  | .error e => return (.error (.term e), s)
  | .ok v =>
    match reg.sources.find? source with
    | none => return (.error (.sourceNotFound source), s)
    | some dataSource =>
      let (response, handle) := dataSource.query source s.handle v
      return State.saveResult { s with handle } saveTo (response.mapError (.source source))

/-- The members, in their order, for whose value the test holds. -/
def keptMeaning {α : Type} (test : Value → Meaning RunError Bool) (valueOf : α → Value) :
    List α → Meaning RunError (List α)
  | [] => return []
  | a :: rest => do
    let kept ← test (valueOf a)
    let others ← keptMeaning test valueOf rest
    return if kept then a :: others else others

/-- Whether an element is kept. The condition sees it under the name "element", unless another name
is given. -/
def elementMeaning (comparisons : Comparisons) (context : Context) (condition : ConditionDef)
    (exclude : Bool) (elementName : Option String) (v : Value) : Meaning RunError Bool := do
  let scope := context.insert (elementName.getD "element") v
  let holds ← (condition.meaning comparisons scope).adapt .condition
  return if exclude then !holds else holds

def filterMeaning (comparisons : Comparisons) (context : Context) (source : TermDef)
    (condition : ConditionDef) (exclude : Bool) (elementName : Option String) :
    Meaning RunError Value := do
  let test := elementMeaning comparisons context condition exclude elementName
  match (← (source.meaning context).adapt .term).resolved with
  | .list items => return .list (← keptMeaning test id items)
  | .map entries => return .map (← keptMeaning test Prod.snd entries)
  | v => .of (.error (.notIterable v.kind))

def foldMeaning (reg : Registry) (context : Context) (source : TermDef) (start : Option TermDef)
    (aggregator : String) (rightToLeft : Bool) : Meaning RunError Value := do
  match reg.aggregators.find? aggregator with
  | none => .of (.error (.aggregatorNotFound aggregator))
  | some combine =>
    match (← (source.meaning context).adapt .term).resolved with
    | .list items =>
      let first ← (TermDef.optionalMeaning context start).adapt .term
      let items := if rightToLeft then items.reverse else items
      .of ((Aggregator.fold combine first items).mapError (.aggregation aggregator))
    | v => .of (.error (.notIterable v.kind))

mutual

/-- How a run goes on behind a node, and the state that the node leaves. -/
def meaning? (comparisons : Comparisons) (reg : Registry) (s : State) :
    NodeDef → Option Outcome
  | .query source params saveTo => query? reg s source params saveTo
  | .branch condition onTrue onFalse isolated => do
    match ← (condition.meaning comparisons s.context).run with
    | .error e => return (.error (.condition e), s)
    | .ok true =>
      let (result, exit) ← sideMeaning? comparisons reg s true onTrue
      return (result, s.leave exit isolated)
    | .ok false =>
      let (result, exit) ← sideMeaning? comparisons reg s false onFalse
      return (result, s.leave exit isolated)
  | .ret value => do
    match ← (value.meaning s.context).run with
    | .error e => return (.error (.term e), s)
    | .ok v => return (.ok (.ret v), s)
  | .filter source condition exclude elementName saveTo => do
    let kept ← (filterMeaning comparisons s.context source condition exclude elementName).run
    return s.saveResult saveTo kept
  | .fold source start aggregator rightToLeft saveTo => do
    let folded ← (foldMeaning reg s.context source start aggregator rightToLeft).run
    return s.saveResult saveTo folded
  | .stop => return (.ok .stop, s)

/-- An absent side cannot be taken; one without nodes goes on at once. -/
def sideMeaning? (comparisons : Comparisons) (reg : Registry) (s : State) (outcome : Bool) :
    Option (List NodeDef) → Option Outcome
  | none => return (.error (.noPipeline outcome), s)
  | some nodes => levelMeaning? comparisons reg 0 s nodes

/-- The nodes of one level, the first of them at `index`. -/
def levelMeaning? (comparisons : Comparisons) (reg : Registry) (index : Nat) (s : State) :
    List NodeDef → Option Outcome
  | [] => return (.ok .next, s)
  | n :: rest =>
    if s.handle.cancelled then return (.error .cancelled, s)
    else do
      match ← n.meaning? comparisons reg s with
      | (.ok .next, t) => levelMeaning? comparisons reg (index + 1) t rest
      | (.ok flow, t) => return (.ok flow, t)
      | (.error e, t) => return (.error (.node index n.kind e), t)

end

end NodeDef

/-- The outcome of a pipeline that is interpreted as it is defined, and the state it leaves. -/
def PipelineDef.interpret? (comparisons : Comparisons) (reg : Registry) (d : PipelineDef)
    (s : State) : Option (Except RunError (Option Value) × State) := do
  let (result, t) ← NodeDef.levelMeaning? comparisons reg 0 s d.nodes
  return (result.map Flow.value?, t)

end RulePipeline
