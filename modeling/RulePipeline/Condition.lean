import RulePipeline.Relation
import RulePipeline.Term
import RulePipeline.Value.Type

/-! Conditions on a context. Combinators look at their children from left to right and stop at
the first that settles the outcome; a child that fails before that fails the whole. -/
namespace RulePipeline

inductive Side where
  | left
  | right
  deriving DecidableEq

def Side.text : Side → String
  | .left => "left-hand side"
  | .right => "right-hand side"

/-- What a leaf may lack. -/
inductive Missing where
  | relation
  | operand (side : Side)
  | operandOfCustom
  deriving DecidableEq

def Missing.text : Missing → String
  | .relation => "operand is not set"
  | .operand side => side.text ++ " builder is missing"
  | .operandOfCustom => "custom comparison needs both builders"

inductive ConditionError where
  | invalid (missing : Missing)
  | nilCondition (index : Nat)
  | comparison (error : CompareError)
  | typeAssertion (side : Side) (expected : ValueType) (actual : Kind)
  | nilComparison
  | term (side : Side) (error : TermError)
  | custom (text : String)
  deriving DecidableEq

def ConditionError.message : ConditionError → String
  | .invalid m => "invalid condition: " ++ m.text
  | .nilCondition i => "condition " ++ toString i ++ " of combinator is nil"
  | .comparison e => "comparison failed: " ++ e.message
  | .typeAssertion side expected actual =>
    "type assertion failed on " ++ side.text ++ ": expected " ++ expected.text ++ ", got " ++
      actual.text
  | .nilComparison => "custom compare function is nil"
  | .term side e => "failed to build " ++ side.text ++ ": " ++ e.message
  | .custom text => text

/-- A comparison by the host, run only on two values of its type. -/
structure Comparison where
  type : ValueType
  test : Value → Value → Except String Bool

namespace Comparison

def narrow (c : Comparison) (side : Side) (v : Value) : Except ConditionError Value :=
  match c.type.narrow v with
  | some v => .ok v
  | none => .error (.typeAssertion side c.type v.resolved.kind)

def apply (c : Comparison) (lhs rhs : Value) : Except ConditionError Bool := do
  let lhs ← c.narrow .left lhs
  let rhs ← c.narrow .right rhs
  (c.test lhs rhs).mapError .custom

end Comparison

inductive Condition where
  | compare (lhs : Option Term) (relation : Relation) (rhs : Option Term)
  | all (children : List Condition)
  | any (children : List Condition)
  | not (child : Condition)
  | custom (comparison : Option Comparison) (lhs rhs : Option Term)

namespace Condition

def evalSide (context : Context) (side : Side) : Option Term → Except ConditionError Value
  | none => .error (.invalid (.operand side))
  | some t => (t.eval context).mapError (.term side)

def evalCompare (context : Context) (lhs : Option Term) (r : Relation) (rhs : Option Term) :
    Except ConditionError Bool := do
  if r = .unset then throw (.invalid .relation)
  let lhs ← evalSide context .left lhs
  let rhs ← evalSide context .right rhs
  (lhs.compare rhs r).mapError .comparison

def evalCustom (context : Context) (comparison : Option Comparison) (lhs rhs : Option Term) :
    Except ConditionError Bool := do
  if lhs.isNone || rhs.isNone then throw (.invalid .operandOfCustom)
  match comparison with
  | none => throw .nilComparison
  | some c =>
    let lhs ← evalSide context .left lhs
    let rhs ← evalSide context .right rhs
    c.apply lhs rhs

mutual

def eval (context : Context) : Condition → Except ConditionError Bool
  | .compare lhs r rhs => evalCompare context lhs r rhs
  | .all children => evalAll context children
  | .any children => evalAny context children
  | .not child => do return !(← child.eval context)
  | .custom c lhs rhs => evalCustom context c lhs rhs

/-- No children are all true. -/
def evalAll (context : Context) : List Condition → Except ConditionError Bool
  | [] => .ok true
  | c :: rest => do if ← c.eval context then evalAll context rest else return false

/-- Of no children, none is true. -/
def evalAny (context : Context) : List Condition → Except ConditionError Bool
  | [] => .ok false
  | c :: rest => do if ← c.eval context then return true else evalAny context rest

end

end Condition

end RulePipeline
