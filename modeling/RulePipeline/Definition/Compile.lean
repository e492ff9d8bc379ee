import RulePipeline.Definition.Basic
import RulePipeline.Json.Writer
import RulePipeline.Node

/-! From definitions to pipelines. Whatever can be checked without a context is checked here; data
sources and aggregators are found by name only when the pipeline runs. -/
namespace RulePipeline

inductive DefinitionError where
  | unsetRelation
  | unknownComparison (name : String)
  | missingConstant (name : String)
  | invalidLiteral (literal : Json) (kind : Kind)
  | condition (error : ConditionError)

def DefinitionError.message : DefinitionError → String
  | .unsetRelation => "condition operand must be set"
  | .unknownComparison name => "unknown custom comparison '" ++ name ++ "'"
  | .missingConstant name => "getter '" ++ name ++ "' requires a value"
  | .invalidLiteral json kind =>
    "literal " ++ json.compact ++ " cannot be represented as " ++ kind.text
  | .condition e => e.message

/-- Comparisons by the host that definitions may name. -/
abbrev Comparisons := SortedMap Comparison

namespace TermDef

/-- The types of values that a literal can be declared to have. -/
def literalType? : Kind → Option ValueType
  | .bool => some .bool
  | .int k => some (.int k)
  | .f32 => some .f32
  | .f64 => some .f64
  | .string => some .string
  | .list => some .list
  | .map => some .map
  | .nil | .record | .ref | .host => none

/-- A literal becomes a value of its declared kind only if nothing is lost. -/
def literalValue (json : Json) (kind : Option Kind) : Except DefinitionError Value :=
  let v := Value.ofJson json
  match kind with
  | none => .ok v
  | some k =>
    let typed := match literalType? k with
      | some t => t.convert v
      | none => if k = .nil ∧ v.isNil then some .nil else none
    match typed with
    | some v => .ok v
    | none => .error (.invalidLiteral json k)

/-- A getter without a key gets the nil key. -/
def compile : TermDef → Except DefinitionError Term
  | .literal json kind => do return .literal (← literalValue json kind)
  | .context name none _ _ => return .read name
  | .context name (some getter) key value => do
    let g ← match getter with
      | .step => pure Getter.step
      | .path => pure Getter.path
      | .constant =>
        match value with
        | some json => pure (Getter.constant (.ofJson json))
        | none => throw (.missingConstant name)
    return .project name g (some ((key.map Value.ofJson).getD .nil))

end TermDef

namespace ConditionDef

mutual

def compile (comparisons : Comparisons) : ConditionDef → Except DefinitionError Condition
  | .compare lhs r rhs => do
    if r = .unset then throw .unsetRelation
    let lhs ← lhs.compile
    let rhs ← rhs.compile
    return .compare (some lhs) r (some rhs)
  | .all children => do return .all (← compileChildren comparisons 0 children)
  | .any children => do return .any (← compileChildren comparisons 0 children)
  | .not child => do return .not (← child.compile comparisons)
  | .custom name lhs rhs => do
    match comparisons.find? name with
    | none => throw (.unknownComparison name)
    | some c =>
      let lhs ← lhs.compile
      let rhs ← rhs.compile
      return .custom (some c) (some lhs) (some rhs)

/-- Every place among the children has to be taken. -/
def compileChildren (comparisons : Comparisons) (index : Nat) :
    List (Option ConditionDef) → Except DefinitionError (List Condition)
  | [] => return []
  | none :: _ => throw (.condition (.nilCondition index))
  | some c :: rest => do
    let c ← c.compile comparisons
    let rest ← compileChildren comparisons (index + 1) rest
    return c :: rest

end

end ConditionDef

namespace NodeDef

/-- Nil, where there is no term. -/
def compileTerm : Option TermDef → Except DefinitionError Term
  | some t => t.compile
  | none => return .literal .nil

mutual

def compile (comparisons : Comparisons) : NodeDef → Except DefinitionError Node
  | .query source params saveTo => do
    let params ← compileTerm params
    return .query { source, params, saveTo }
  | .branch condition onTrue onFalse isolated => do
    let condition ← condition.compile comparisons
    let onTrue ← compileSide comparisons onTrue
    let onFalse ← compileSide comparisons onFalse
    return .branch condition onTrue onFalse isolated
  | .ret value => do return .ret (← value.compile)
  | .filter source condition exclude elementName saveTo => do
    let source ← source.compile
    let condition ← condition.compile comparisons
    let elementName := elementName.getD Filter.defaultElementName
    return .filter { source, condition, exclude, elementName, saveTo }
  | .fold source start aggregator rightToLeft saveTo => do
    let start ← compileTerm start
    let source ← source.compile
    return .fold { source, start, aggregator, rightToLeft, saveTo }
  | .stop => return .stop

def compileSide (comparisons : Comparisons) :
    Option (List NodeDef) → Except DefinitionError (Option (List Node))
  | none => return none
  | some nodes => do return some (← compileNodes comparisons nodes)

def compileNodes (comparisons : Comparisons) :
    List NodeDef → Except DefinitionError (List Node)
  | [] => return []
  | n :: rest => do
    let n ← n.compile comparisons
    let rest ← compileNodes comparisons rest
    return n :: rest

end

end NodeDef

def PipelineDef.compile (comparisons : Comparisons) (d : PipelineDef) :
    Except DefinitionError Pipeline :=
  NodeDef.compileNodes comparisons d.nodes

end RulePipeline
