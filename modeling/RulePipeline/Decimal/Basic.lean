import RulePipeline.Binary.Basic

/-! Decimal numbers as digits and a power of ten, their reading as binary numbers and their
written form. -/
namespace RulePipeline

attribute [local instance (high)] instPowNat

/-- The number `digits * 10 ^ exponent`. -/
structure Decimal where
  digits : Nat
  exponent : Int
  deriving DecidableEq

namespace Decimal

def digitCount (n : Nat) : Nat := (Nat.toDigits 10 n).length

/-- The binary number nearest to a decimal. A power of ten far outside the format's range is
settled by comparing powers of two, so that a long exponent costs nothing. -/
def toBinary (f : Binary.Format) (neg : Bool) (d : Decimal) : Binary f :=
  let top : Int := digitCount d.digits + d.exponent
  if d.digits = 0 ∨ 3 * top < -(f.scale + 1 : Int) then .zero neg
  else if 3 * (top - 1) > (2 ^ (f.expBits - 1) : Nat) then .infinity neg
  else match d.exponent with
    | .ofNat e => .ofUnits neg (d.digits * 10 ^ e * 2 ^ f.scale) 1
    | .negSucc e => .ofUnits neg (d.digits * 2 ^ f.scale) (10 ^ (e + 1))

/-- Which decimal exponents are written without an `e`. -/
structure Layout where
  least : Int
  greatest : Int

def zeros (n : Nat) : String := String.ofList (List.replicate n '0')

/-- Digits with a point somewhere among them, or one digit before the point and a signed
exponent after it. A positional number always has a digit on both sides of its point. -/
def render (layout : Layout) (d : Decimal) : String :=
  let ds := Nat.toDigits 10 d.digits
  let e : Int := d.exponent + ds.length - 1
  if d.digits = 0 then "0.0"
  else if layout.least ≤ e ∧ e ≤ layout.greatest then
    if e < 0 then "0." ++ zeros (-e - 1).toNat ++ String.ofList ds
    else
      let whole := e.toNat + 1
      if ds.length ≤ whole then String.ofList ds ++ zeros (whole - ds.length) ++ ".0"
      else String.ofList (ds.take whole) ++ "." ++ String.ofList (ds.drop whole)
  else
    let fraction := if ds.length ≤ 1 then "" else "." ++ String.ofList (ds.drop 1)
    String.ofList (ds.take 1) ++ fraction ++ (if e < 0 then "e-" else "e+") ++ toString e.natAbs

end Decimal

end RulePipeline
