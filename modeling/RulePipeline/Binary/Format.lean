/-! Binary floating point formats. A magnitude is the bit pattern of a number without its sign;
it grows with the number, and the unit of a format is its least positive number. -/
namespace RulePipeline

-- Powers are those of core, also where a later module brings in another library.
attribute [local instance (high)] instPowNat

namespace Binary

structure Format where
  fracBits : Nat
  expBits : Nat

namespace Format

def single : Format := ⟨23, 8⟩
def double : Format := ⟨52, 11⟩

/-- The magnitude of infinity; the finite ones are below it. -/
def infinity (f : Format) : Nat := (2 ^ f.expBits - 1) * 2 ^ f.fracBits

/-- One is two to this many units. -/
def scale (f : Format) : Nat := 2 ^ (f.expBits - 1) - 2 + f.fracBits

/-- The number that a finite magnitude stands for, in units. -/
def units (f : Format) (mag : Nat) : Nat :=
  if mag < 2 ^ f.fracBits then mag
  else (2 ^ f.fracBits + mag % 2 ^ f.fracBits) * 2 ^ (mag / 2 ^ f.fracBits - 1)

end Format

/-- The natural number nearest to `num / den`; a tie goes to the even one. -/
def roundDiv (num den : Nat) : Nat :=
  let q := num / den
  let r := num % den
  if 2 * r < den ∨ (2 * r = den ∧ q % 2 = 0) then q else q + 1

/-- The magnitude nearest to `num / den` units, ties to the even pattern. A significand that
rounds up to the next power of two carries into the exponent by itself. -/
def Format.round (f : Format) (num den : Nat) : Nat :=
  let e := Nat.log2 (num / den) - f.fracBits
  min (e * 2 ^ f.fracBits + roundDiv num (den * 2 ^ e)) f.infinity

end Binary

end RulePipeline
