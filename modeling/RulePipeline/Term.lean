import RulePipeline.Getter
import RulePipeline.Value.Json

/-! Terms produce a value when a pipeline runs: a literal, or an entry of the context with a
getter applied to it. -/
namespace RulePipeline

/-- The named values that a pipeline reads and writes. -/
abbrev Context := SortedMap Value

namespace Context

def equal (a b : Context) : Bool := Value.equalEntries a.entries b.entries

def toJson (c : Context) : Json := .obj (Value.toJsonEntries c.entries)

/-- Each member of an object becomes an entry; nothing else is a context. -/
def ofJson? : Json → Option Context
  | .obj members => some (SortedMap.ofList (Value.ofJsonMembers members))
  | _ => none

end Context

inductive TermError where
  | emptyName
  | notInContext (name : String)
  | getter (name : String) (error : GetterError)
  deriving DecidableEq

def TermError.message : TermError → String
  | .emptyName => "no context key provided"
  | .notInContext name => "value '" ++ name ++ "' not found in context"
  | .getter name e => "getter failed on context value '" ++ name ++ "': " ++ e.message

inductive Term where
  | literal (value : Value)
  | read (name : String)
  | project (name : String) (getter : Getter) (key : Option Value)

namespace Term

def lookup (context : Context) (name : String) : Except TermError Value :=
  if name = "" then .error .emptyName
  else match context.find? name with
    | some v => .ok v
    | none => .error (.notInContext name)

def eval (context : Context) : Term → Except TermError Value
  | .literal v => .ok v
  | .read name => lookup context name
  | .project name getter key => do
    (getter.get (← lookup context name) key).mapError (.getter name)

end Term

end RulePipeline
