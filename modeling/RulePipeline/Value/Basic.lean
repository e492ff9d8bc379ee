import RulePipeline.Binary.Basic
import RulePipeline.Entries
import RulePipeline.Value.Kind

/-! Values of a closed set of kinds. A map lists its entries by ascending name and a record its
fields in the order of their first use; a reference stands for another value, and a host object
is one that only the host can look into. -/
namespace RulePipeline

/-- What the host knows an object by. -/
inductive HostKey where
  | word (n : UInt32)
  | text (s : String)
  deriving DecidableEq

/-- Two host objects are the same if host type and key agree. -/
structure HostObject where
  typeName : String
  key : HostKey
  deriving DecidableEq

/-- A hidden field is part of its record but cannot be read out. -/
structure Field (α : Type) where
  name : String
  value : α
  exported : Bool

inductive Value where
  | nil
  | bool (b : Bool)
  | int (n : FixedInt)
  | f32 (x : Binary32)
  | f64 (x : Binary64)
  | string (s : String)
  | list (items : List Value)
  | map (entries : List (String × Value))
  | record (typeName : String) (fields : List (Field Value))
  | ref (target : Value)
  | host (object : HostObject)

/-- A number in the widest form of its family. -/
inductive Numeric where
  | signed (n : Int)
  | unsigned (n : Nat)
  | float (x : Binary64)

namespace Numeric

def toFloat : Numeric → Binary64
  | .signed n => .ofInt n
  | .unsigned n => .ofInt n
  | .float x => x

/-- The integer, if it is one. -/
def int? : Numeric → Option Int
  | .signed n => some n
  | .unsigned n => some n
  | .float _ => none

/-- The double of exactly this number, if there is one. -/
def toFloat? (n : Numeric) : Option Binary64 :=
  match n.int? with
  | some i => if n.toFloat.truncate = i then some n.toFloat else none
  | none => some n.toFloat

end Numeric

namespace Value

instance : Inhabited Value := ⟨.nil⟩

def kind : Value → Kind
  | .nil => .nil
  | .bool _ => .bool
  | .int n => .int n.kind
  | .f32 _ => .f32
  | .f64 _ => .f64
  | .string _ => .string
  | .list _ => .list
  | .map _ => .map
  | .record _ _ => .record
  | .ref _ => .ref
  | .host _ => .host

def isNil : Value → Bool
  | .nil => true
  | _ => false

/-- The value at the end of a chain of references. -/
def resolved : Value → Value
  | .ref target => target.resolved
  | v => v

def numeric? : Value → Option Numeric
  | .int n => some (if n.kind.signed then .signed n.val else .unsigned n.val.toNat)
  | .f32 x => some (.float (x.cast .double))
  | .f64 x => some (.float x)
  | _ => none

def string? (v : Value) : Option String :=
  match v.resolved with
  | .string s => some s
  | _ => none

def list? (v : Value) : Option (List Value) :=
  match v.resolved with
  | .list items => some items
  | _ => none

/-- An integer of a kind, if it fits. -/
def ofInt? (kind : IntKind) (n : Int) : Option Value := (FixedInt.ofInt? kind n).map .int

mutual

/-- Same kind, same content. Floating point numbers are equal as numbers, so that a value with a
NaN in it differs from itself. -/
def equal : Value → Value → Bool
  | .nil, .nil => true
  | .bool a, .bool b => a == b
  | .int m, .int n => m == n
  | .f32 x, .f32 y => x.equal y
  | .f64 x, .f64 y => x.equal y
  | .string s, .string t => s == t
  | .list xs, .list ys => equalItems xs ys
  | .map xs, .map ys => equalEntries xs ys
  | .record s xs, .record t ys => s == t && equalFields xs ys
  | .ref x, .ref y => x.equal y
  | .host a, .host b => a == b
  | _, _ => false

def equalItems : List Value → List Value → Bool
  | [], [] => true
  | x :: xs, y :: ys => x.equal y && equalItems xs ys
  | _, _ => false

def equalEntries : List (String × Value) → List (String × Value) → Bool
  | [], [] => true
  | (m, x) :: xs, (n, y) :: ys => m == n && x.equal y && equalEntries xs ys
  | _, _ => false

def equalFields : List (Field Value) → List (Field Value) → Bool
  | [], [] => true
  | ⟨m, x, p⟩ :: xs, ⟨n, y, q⟩ :: ys => m == n && x.equal y && p == q && equalFields xs ys
  | _, _ => false

end

@[simp] theorem resolved_ref (v : Value) : (ref v).resolved = v.resolved := rfl

theorem resolved_ne_ref (v w : Value) : v.resolved ≠ ref w := by
  induction v using Value.resolved.induct with
  | case1 target ih => exact ih
  | case2 v h => cases v <;> simp_all [resolved]

end Value

end RulePipeline
