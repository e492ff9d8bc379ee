import RulePipeline.Json.Basic
import RulePipeline.Relation

/-! Pipelines as they are written down. Literals are kept as JSON documents until the definition
is compiled, and comparisons by the host are known by name only. -/
namespace RulePipeline

inductive GetterDef where
  | step
  | path
  | constant
  deriving DecidableEq

namespace GetterDef

def all : List GetterDef := [.step, .path, .constant]

def text : GetterDef → String
  | .step => "default"
  | .path => "chain"
  | .constant => "static"

end GetterDef

inductive TermDef where
  | literal (json : Json) (kind : Option Kind)
  | context (name : String) (getter : Option GetterDef) (key value : Option Json)

inductive ConditionDef where
  | compare (lhs : TermDef) (relation : Relation) (rhs : TermDef)
  | all (children : List (Option ConditionDef))
  | any (children : List (Option ConditionDef))
  | not (child : ConditionDef)
  | custom (name : String) (lhs rhs : TermDef)

inductive NodeDef where
  | query (source : String) (params : Option TermDef) (saveTo : String)
  | branch (condition : ConditionDef) (onTrue onFalse : Option (List NodeDef)) (isolated : Bool)
  | ret (value : TermDef)
  | filter (source : TermDef) (condition : ConditionDef) (exclude : Bool)
      (elementName : Option String) (saveTo : String)
  | fold (source : TermDef) (start : Option TermDef) (aggregator : String) (rightToLeft : Bool)
      (saveTo : String)
  | stop

structure PipelineDef where
  name : String
  description : String
  nodes : List NodeDef

end RulePipeline
