import RulePipeline.Binary.Format

/-! Floating point numbers of a binary format. All NaNs are one value: nothing here can tell
their payloads apart. Arithmetic is exact on naturals and rounds once at the end. -/
namespace RulePipeline

attribute [local instance (high)] instPowNat

inductive Binary (f : Binary.Format) where
  | nan
  | num (neg : Bool) (mag : Fin (f.infinity + 1))
  deriving DecidableEq

abbrev Binary32 := Binary .single
abbrev Binary64 := Binary .double

namespace Binary

variable {f g : Format}

def isNaN : Binary f → Bool
  | .nan => true
  | .num _ _ => false

def isFinite : Binary f → Bool
  | .nan => false
  | .num _ mag => mag.val < f.infinity

def zero (neg : Bool) : Binary f := .num neg ⟨0, Nat.succ_pos _⟩

def infinity (neg : Bool) : Binary f := .num neg ⟨f.infinity, Nat.lt_succ_self _⟩

/-- The number nearest to `num / den` units. -/
def ofUnits (neg : Bool) (num den : Nat) : Binary f :=
  .num neg ⟨f.round num den, Nat.lt_succ_of_le (Nat.min_le_right _ _)⟩

def ofInt (n : Int) : Binary f := ofUnits (n < 0) (n.natAbs * 2 ^ f.scale) 1

/-- A magnitude under its sign: the order of the numbers, with both zeros at zero. -/
def rank (neg : Bool) (mag : Nat) : Int := if neg then -(mag : Int) else mag

/-- A NaN has no place in the order. -/
def order : Binary f → Binary f → Option Ordering
  | .num sx x, .num sy y => some (compare (rank sx x) (rank sy y))
  | _, _ => none

/-- Both zeros are equal, and a NaN is equal to nothing. -/
def equal (x y : Binary f) : Bool := x.order y == some .eq

/-- The signed count of units of a finite number. -/
def signedUnits (neg : Bool) (mag : Nat) : Int :=
  if neg then -(f.units mag : Int) else f.units mag

/-- The integer part of a finite number. -/
def truncate : Binary f → Int
  | .nan => 0
  | .num neg mag => (signedUnits (f := f) neg mag).tdiv (2 ^ f.scale : Nat)

/-- The same number in another format, to nearest. -/
def cast (g : Format) : Binary f → Binary g
  | .nan => .nan
  | .num neg mag =>
    if mag.val < f.infinity then ofUnits neg (f.units mag * 2 ^ g.scale) (2 ^ f.scale)
    else infinity neg

/-- A sum of zero is negative only where both terms are. -/
def add : Binary f → Binary f → Binary f
  | .num sx x, .num sy y =>
    if x.val < f.infinity then
      if y.val < f.infinity then
        let total := signedUnits (f := f) sx x + signedUnits (f := f) sy y
        if total = 0 then zero (sx && sy && x.val == 0 && y.val == 0)
        else ofUnits (total < 0) total.natAbs 1
      else .num sy y
    else if y.val < f.infinity ∨ sx = sy then .num sx x else .nan
  | _, _ => .nan

def isZero : Binary f → Bool
  | .nan => false
  | .num _ mag => mag.val = 0

def mul : Binary f → Binary f → Binary f
  | .num sx x, .num sy y =>
    if x.val < f.infinity ∧ y.val < f.infinity then
      ofUnits (sx != sy) (f.units x * f.units y) (2 ^ f.scale)
    else if x.val = 0 ∨ y.val = 0 then .nan
    else infinity (sx != sy)
  | _, _ => .nan

def div : Binary f → Binary f → Binary f
  | .num sx x, .num sy y =>
    if x.val < f.infinity then
      if y.val = 0 then if x.val = 0 then .nan else infinity (sx != sy)
      else if y.val < f.infinity then ofUnits (sx != sy) (f.units x * 2 ^ f.scale) (f.units y)
      else zero (sx != sy)
    else if y.val < f.infinity then infinity (sx != sy) else .nan
  | _, _ => .nan

/-- The sign bit above the magnitude; none for a NaN. -/
def bits? : Binary f → Option Nat
  | .nan => none
  | .num neg mag => some ((if neg then 2 ^ (f.fracBits + f.expBits) else 0) + mag)

/-- Patterns above infinity are NaNs. -/
def ofBits (n : Nat) : Binary f :=
  let mag := n % 2 ^ (f.fracBits + f.expBits)
  if h : mag < f.infinity + 1 then .num (n / 2 ^ (f.fracBits + f.expBits) % 2 = 1) ⟨mag, h⟩
  else .nan

end Binary

end RulePipeline
