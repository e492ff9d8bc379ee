import RulePipeline.Value.Basic

/-! The types that host functions declare for their arguments. A value narrows to a type if it
has just that kind; it converts if nothing is lost on the way. Both look through references,
except for `any`, which takes a value as it is. -/
namespace RulePipeline

inductive ValueType where
  | bool
  | int (kind : IntKind)
  | f32
  | f64
  | string
  | list
  | map
  | record
  | any
  deriving DecidableEq

namespace ValueType

def all : List ValueType :=
  [.bool] ++ IntKind.all.map .int ++ [.f32, .f64, .string, .list, .map, .record, .any]

/-- The one kind whose values have this type. -/
def kind? : ValueType → Option Kind
  | .bool => some .bool
  | .int k => some (.int k)
  | .f32 => some .f32
  | .f64 => some .f64
  | .string => some .string
  | .list => some .list
  | .map => some .map
  | .record => some .record
  | .any => none

def text (t : ValueType) : String := (t.kind?.map Kind.text).getD "value"

def narrow (t : ValueType) (v : Value) : Option Value :=
  match t.kind? with
  | none => some v
  | some k => if v.resolved.kind = k then some v.resolved else none

/-- The single of exactly this double; a NaN stays one. -/
def toSingle? (x : Binary64) : Option Binary32 :=
  let y := x.cast .single
  if (y.cast .double).equal x ∨ x.isNaN then some y else none

/-- Numbers convert between kinds when they stay the same number, but no float becomes an
integer. Every other value has to narrow. -/
def convert (t : ValueType) (v : Value) : Option Value :=
  match t with
  | .int k => v.resolved.numeric?.bind Numeric.int? |>.bind (Value.ofInt? k)
  | .f64 => v.resolved.numeric?.bind Numeric.toFloat? |>.map .f64
  | .f32 => v.resolved.numeric?.bind Numeric.toFloat? |>.bind toSingle? |>.map .f32
  | t => t.narrow v

end ValueType

end RulePipeline
