import RulePipeline.Text.Blank
import RulePipeline.Value.Basic

/-! Comparing values. Numbers of all kinds compare with each other, strings by code point, and
everything else only for equality with its own kind; nil can be tested against any value. -/
namespace RulePipeline

inductive Relation where
  | unset
  | equal
  | notEqual
  | greater
  | less
  | greaterEqual
  | lessEqual
  deriving DecidableEq

inductive CompareError where
  | unsetRelation
  | incompatible (lhs rhs : Kind)
  | unsupported (relation : Relation) (kind : Kind)
  deriving DecidableEq

namespace Relation

def all : List Relation :=
  [.unset, .equal, .notEqual, .greater, .less, .greaterEqual, .lessEqual]

def symbol : Relation → String
  | .unset => "<invalid>"
  | .equal => "=="
  | .notEqual => "!="
  | .greater => ">"
  | .less => "<"
  | .greaterEqual => ">="
  | .lessEqual => "<="

def name : Relation → String
  | .unset => "invalid"
  | .equal => "equal"
  | .notEqual => "not_equal"
  | .greater => "greater_than"
  | .less => "less_than"
  | .greaterEqual => "greater_than_or_equal"
  | .lessEqual => "less_than_or_equal"

/-- The spellings of a relation in a definition; only its name stands for the unset one. -/
def spellings (r : Relation) : List String :=
  if r = .unset then [r.name] else [r.symbol, r.name]

def ofSpelling? (s : String) : Option Relation := all.find? fun r => s ∈ r.spellings

/-- A relation that is set, with white space around it. -/
def parse? (s : String) : Option Relation :=
  (ofSpelling? (Text.trim s)).filter (· ≠ .unset)

def negate : Relation → Relation
  | .unset => .unset
  | .equal => .notEqual
  | .notEqual => .equal
  | .greater => .lessEqual
  | .lessEqual => .greater
  | .less => .greaterEqual
  | .greaterEqual => .less

/-- The relation of the operands in exchanged places. -/
def converse : Relation → Relation
  | .greater => .less
  | .less => .greater
  | .greaterEqual => .lessEqual
  | .lessEqual => .greaterEqual
  | r => r

/-- Whether a relation holds of operands in this order. Of operands without an order, such as a
NaN and anything else, only inequality holds. -/
def holds : Relation → Option Ordering → Bool
  | r, none => r = .notEqual
  | .unset, some _ => false
  | .equal, some o => o = .eq
  | .notEqual, some o => o ≠ .eq
  | .greater, some o => o = .gt
  | .less, some o => o = .lt
  | .greaterEqual, some o => o ≠ .lt
  | .lessEqual, some o => o ≠ .gt

/-- A relation that only asks whether the operands are equal. -/
def onEquality (r : Relation) (kind : Kind) (same : Bool) : Except CompareError Bool :=
  match r with
  | .equal => .ok same
  | .notEqual => .ok !same
  | r => .error (.unsupported r kind)

end Relation

def CompareError.message : CompareError → String
  | .unsetRelation => "comparison operand is invalid"
  | .incompatible lhs rhs => "cannot compare " ++ lhs.text ++ " with " ++ rhs.text
  | .unsupported r kind =>
    "operation '" ++ r.symbol ++ "' is not supported for " ++ kind.text

/-- Integers keep their sign: a negative one is below every unsigned one. A pair with a float in
it is compared as doubles. -/
def Numeric.order : Numeric → Numeric → Option Ordering
  | .signed m, .signed n => some (compare m n)
  | .unsigned m, .unsigned n => some (compare m n)
  | .signed m, .unsigned n => some (if m < 0 then .lt else compare m.toNat n)
  | .unsigned m, .signed n => some (if n < 0 then .gt else compare m n.toNat)
  | m, n => m.toFloat.order n.toFloat

namespace Value

/-- Two values of which neither is nil and not both are numbers. -/
def compareAlike (lhs rhs : Value) (r : Relation) : Except CompareError Bool :=
  let incompatible := CompareError.incompatible lhs.kind rhs.kind
  match lhs, rhs with
  | .string s, .string t => .ok (r.holds (some (compare s t)))
  | .record s _, .record t _ =>
    if s = t then r.onEquality .record (lhs.equal rhs) else .error incompatible
  | .host a, .host b =>
    if a.typeName = b.typeName then r.onEquality .host (lhs.equal rhs) else .error incompatible
  | .bool _, .bool _ => r.onEquality .bool (lhs.equal rhs)
  | .list _, .list _ => r.onEquality .list (lhs.equal rhs)
  | .map _, .map _ => r.onEquality .map (lhs.equal rhs)
  | _, _ => .error incompatible

def compareResolved (lhs rhs : Value) (r : Relation) : Except CompareError Bool :=
  if lhs.isNil || rhs.isNil then r.onEquality .nil (lhs.isNil && rhs.isNil)
  else match lhs.numeric?, rhs.numeric? with
    | some m, some n => .ok (r.holds (m.order n))
    | _, _ => lhs.compareAlike rhs r

/-- Whether the values at the ends of the references stand in a relation. -/
def compare (lhs rhs : Value) (r : Relation) : Except CompareError Bool :=
  if r = .unset then .error .unsetRelation else lhs.resolved.compareResolved rhs.resolved r

/-- Numbers and strings in order; a NaN counts as equal to every number. -/
def order (lhs rhs : Value) : Except CompareError Ordering := do
  if ← lhs.compare rhs .less then return .lt
  else if ← lhs.compare rhs .greater then return .gt
  else return .eq

end Value

end RulePipeline
