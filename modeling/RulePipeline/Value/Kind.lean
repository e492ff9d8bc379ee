/-! The kinds of values, and the integers of fixed width among them. -/
namespace RulePipeline

-- Powers are those of core, also where a later module brings in another library.
attribute [local instance (high)] instPowNat

inductive IntKind where
  | i8 | i16 | i32 | i64 | u8 | u16 | u32 | u64
  deriving DecidableEq

namespace IntKind

def all : List IntKind := [.i8, .i16, .i32, .i64, .u8, .u16, .u32, .u64]

def signed : IntKind → Bool
  | .i8 | .i16 | .i32 | .i64 => true
  | .u8 | .u16 | .u32 | .u64 => false

def bits : IntKind → Nat
  | .i8 | .u8 => 8
  | .i16 | .u16 => 16
  | .i32 | .u32 => 32
  | .i64 | .u64 => 64

def least (k : IntKind) : Int := if k.signed then -2 ^ (k.bits - 1) else 0

def greatest (k : IntKind) : Int := if k.signed then 2 ^ (k.bits - 1) - 1 else 2 ^ k.bits - 1

def text : IntKind → String
  | .i8 => "i8"
  | .i16 => "i16"
  | .i32 => "i32"
  | .i64 => "i64"
  | .u8 => "u8"
  | .u16 => "u16"
  | .u32 => "u32"
  | .u64 => "u64"

end IntKind

/-- An integer that fits its kind. -/
structure FixedInt where
  kind : IntKind
  val : Int
  inRange : kind.least ≤ val ∧ val ≤ kind.greatest
  deriving DecidableEq

def FixedInt.ofInt? (kind : IntKind) (n : Int) : Option FixedInt :=
  if h : kind.least ≤ n ∧ n ≤ kind.greatest then some ⟨kind, n, h⟩ else none

inductive Kind where
  | nil
  | bool
  | int (kind : IntKind)
  | f32
  | f64
  | string
  | list
  | map
  | record
  | ref
  | host
  deriving DecidableEq

namespace Kind

def all : List Kind :=
  [.nil, .bool] ++ IntKind.all.map .int ++
    [.f32, .f64, .string, .list, .map, .record, .ref, .host]

def text : Kind → String
  | .nil => "nil"
  | .bool => "bool"
  | .int k => k.text
  | .f32 => "f32"
  | .f64 => "f64"
  | .string => "string"
  | .list => "list"
  | .map => "map"
  | .record => "record"
  | .ref => "ref"
  | .host => "opaque"

def ofText? (s : String) : Option Kind := all.find? (·.text = s)

end Kind

end RulePipeline
