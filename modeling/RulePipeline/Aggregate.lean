import RulePipeline.Relation

/-! Aggregators fold one element into an accumulator. For the builtin ones a nil accumulator means
that there is no value yet. -/
namespace RulePipeline

attribute [local instance (high)] instPowNat

/-- What an aggregator wanted where it found something else. -/
inductive Expected where
  | numeric
  | integerAccumulator
  | listAccumulator
  | stringElement
  | stringAccumulator
  deriving DecidableEq

def Expected.text : Expected → String
  | .numeric => "a numeric value"
  | .integerAccumulator => "an integer accumulator"
  | .listAccumulator => "a list accumulator"
  | .stringElement => "a string element"
  | .stringAccumulator => "a string accumulator"

inductive AggregateError where
  | compare (error : CompareError)
  | unexpected (expected : Expected) (actual : Kind)
  | sumOverflow
  | countOverflow
  | countTooLarge
  | failed (text : String)
  deriving DecidableEq

def AggregateError.message : AggregateError → String
  | .compare e => e.message
  | .unexpected expected actual => "expected " ++ expected.text ++ ", got " ++ actual.text
  | .sumOverflow => "integer overflow in sum"
  | .countOverflow => "integer overflow in count"
  | .countTooLarge => "number too large to fit in target type"
  | .failed text => text

abbrev Aggregator := Value → Value → Except AggregateError Value

namespace Aggregator

def unexpected (expected : Expected) (v : Value) : Except AggregateError α :=
  .error (.unexpected expected v.resolved.kind)

def numeric (v : Value) : Except AggregateError Numeric :=
  match v.resolved.numeric? with
  | some n => .ok n
  | none => unexpected .numeric v

/-- An integer total is signed where that fits, and unsigned where both terms are. -/
def total (unsigned : Bool) (n : Int) : Except AggregateError Value :=
  match (if unsigned then none else Value.ofInt? .i64 n).or (Value.ofInt? .u64 n) with
  | some v => .ok v
  | none => .error .sumOverflow

def add (m n : Numeric) : Except AggregateError Value :=
  match m, n with
  | .unsigned m, .unsigned n => total true (m + n)
  | m, n =>
    match m.int?, n.int? with
    | some i, some j => total false (i + j)
    | _, _ => .ok (.f64 (m.toFloat.add n.toFloat))

def sum : Aggregator := fun acc element => do
  let n ← numeric element
  if acc.resolved.isNil then return element
  add (← numeric acc) n

/-- The element if it stands on the wanted side of the accumulator. -/
def pick (wanted : Ordering) : Aggregator := fun acc element => do
  if acc.resolved.isNil then return element
  return if (← (element.order acc).mapError .compare) = wanted then element else acc

def min : Aggregator := pick .lt

def max : Aggregator := pick .gt

def count : Aggregator := fun acc _ => do
  let current ← match acc.resolved with
    | .nil => pure (0 : Int)
    | v =>
      match v.numeric? with
      | some (.signed n) => pure n
      | some (.unsigned n) => if n < 2 ^ (63 : Nat) then pure (n : Int) else throw .countTooLarge
      | _ => unexpected .integerAccumulator v
  match Value.ofInt? .i64 (current + 1) with
  | some v => return v
  | none => throw .countOverflow

def append : Aggregator := fun acc element =>
  match acc.resolved with
  | .nil => .ok (.list [element])
  | .list items => .ok (.list (items ++ [element]))
  | v => unexpected .listAccumulator v

def concat : Aggregator := fun acc element => do
  let some tail := element.string? | unexpected .stringElement element
  match acc.resolved with
  | .nil => return .string tail
  | .string s => return .string (s ++ tail)
  | v => unexpected .stringAccumulator v

def builtins : SortedMap Aggregator :=
  .ofList [("sum", sum), ("min", min), ("max", max), ("count", count), ("append", append),
    ("concat", concat)]

/-- From left to right, up to the first failure. -/
def fold (combine : Aggregator) : Value → List Value → Except AggregateError Value
  | acc, [] => .ok acc
  | acc, v :: rest => do fold combine (← combine acc v) rest

end Aggregator

end RulePipeline
