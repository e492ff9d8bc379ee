import RulePipeline.Definition.Compile
import RulePipeline.RunError

/-! Everything that can go wrong between a request and its answer. -/
namespace RulePipeline

inductive Failure where
  | config (text : String)
  | run (error : RunError)
  | definition (error : DefinitionError)
  | other (text : String)

namespace Failure

def message : Failure → String
  | .config text => "Configuration error: " ++ text
  | .run e => "Pipeline error: " ++ e.message
  | .definition e => "Definition error: " ++ e.message
  | .other text => text

end Failure

/-- Each member of an object becomes an entry; nothing else is a context. -/
def Context.ofJson (j : Json) : Except Failure Context :=
  match Context.ofJson? j with
  | some c => .ok c
  | none => .error (.config ("initial context must be a JSON object, got " ++ j.compact))

end RulePipeline
