import RulePipeline.Failure

/-! Reports of failures on the command line: what failed, and below it the chain of causes. -/
namespace RulePipeline

structure Report where
  text : String
  causes : List String

namespace Report

/-- A text whose later lines line up with the first. -/
def hang (margin : Nat) (text : String) : String :=
  text.replace "\n" ("\n" ++ String.ofList (List.replicate margin ' '))

def numbered (n : Nat) (text : String) : String :=
  let digits := toString n
  String.ofList (List.replicate (5 - digits.length) ' ') ++ digits ++ ": " ++ hang 7 text

/-- Causes are numbered if there is more than one. -/
def render (r : Report) : String :=
  let lines := match r.causes with
    | [] => []
    | [cause] => ["    " ++ hang 4 cause]
    | causes => causes.mapIdx numbered
  let chain := if lines.isEmpty then "" else
    "\n\nCaused by:\n" ++ String.intercalate "\n" lines
  "Error: " ++ r.text ++ chain ++ "\n"

end Report

/-! The errors below an error, from the outside in, each by its message. -/

def TermError.causes : TermError → List String
  | .getter _ e => [e.message]
  | _ => []

def ConditionError.causes : ConditionError → List String
  | .comparison e => [e.message]
  | .term _ e => e.message :: e.causes
  | _ => []

def RunError.causes : RunError → List String
  | .source _ e => [e.message]
  | .aggregation _ e => [e.message]
  | .condition e => e.causes
  | .term e => e.causes
  | .node _ _ cause => cause.message :: cause.causes
  | _ => []

end RulePipeline
