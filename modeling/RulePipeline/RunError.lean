import RulePipeline.Aggregate
import RulePipeline.DataSource
import RulePipeline.Node

/-! What ends a run early. Each level of the pipeline tree adds the place of the failing node, so
that the layers of an error spell a path in the tree. -/
namespace RulePipeline

inductive RunError where
  | noPipeline (outcome : Bool)
  | sourceNotFound (name : String)
  | source (name : String) (error : SourceError)
  | aggregatorNotFound (name : String)
  | aggregation (name : String) (error : AggregateError)
  | notIterable (kind : Kind)
  | condition (error : ConditionError)
  | term (error : TermError)
  | cancelled
  | node (index : Nat) (kind : NodeKind) (cause : RunError)
  deriving DecidableEq

namespace RunError

def message : RunError → String
  | .noPipeline outcome =>
    "pipeline terminated early: no pipeline for " ++ (if outcome then "true" else "false") ++
      " branch"
  | .sourceNotFound name => "data source '" ++ name ++ "' not found"
  | .source name e => "data source '" ++ name ++ "' failed: " ++ e.message
  | .aggregatorNotFound name => "aggregator '" ++ name ++ "' not found"
  | .aggregation name e => "aggregator '" ++ name ++ "' failed: " ++ e.message
  | .notIterable kind => "cannot iterate over " ++ kind.text
  | .condition e => e.message
  | .term e => e.message
  | .cancelled => "pipeline execution was cancelled"
  | .node index kind cause =>
    "node " ++ toString index ++ " (" ++ kind.text ++ ") failed: " ++ cause.message

/-- The error without the places around it. -/
def root : RunError → RunError
  | .node _ _ cause => cause.root
  | e => e

end RunError

end RulePipeline
