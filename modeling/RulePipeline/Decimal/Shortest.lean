import RulePipeline.Decimal.Basic

/-! The shortest decimal that reads back as a given binary number: on the grids of one digit,
two digits and so on, the number's two neighbours are tested against the interval that rounds to
it. If any point of a grid lies in the interval, so does one of the two neighbours. -/
namespace RulePipeline.Decimal

attribute [local instance (high)] instPowNat

/-- The fractions `low / den`, `mid / den` and `high / den`: a number between the halfway points
to its neighbours, which round to it when `closed`. -/
structure Interval where
  low : Nat
  mid : Nat
  high : Nat
  den : Nat
  closed : Bool

/-- Halfway points belong to the even pattern. -/
def Interval.ofMagnitude (f : Binary.Format) (mag : Nat) : Interval where
  low := f.units (mag - 1) + f.units mag
  mid := 2 * f.units mag
  high := f.units mag + f.units (mag + 1)
  den := 2 ^ (f.scale + 1)
  closed := mag % 2 = 0

/-- The same interval counted in units of ten to this power. -/
def Interval.onGrid (i : Interval) : Int → Interval
  | .ofNat p => { i with den := i.den * 10 ^ p }
  | .negSucc p =>
    let lift := 10 ^ (p + 1)
    { i with low := i.low * lift, mid := i.mid * lift, high := i.high * lift }

def Interval.contains (i : Interval) (k : Nat) : Bool :=
  if i.closed then i.low ≤ k * i.den && k * i.den ≤ i.high
  else i.low < k * i.den && k * i.den < i.high

/-- The whole number in the interval that is nearest to its middle, a tie going to the even one. -/
def Interval.nearest? (i : Interval) : Option Nat :=
  let k := i.mid / i.den
  let below := i.mid - k * i.den
  let above := (k + 1) * i.den - i.mid
  let lower := if below = above then k % 2 = 0 else below < above
  match i.contains k, i.contains (k + 1) with
  | true, true => some (if lower then k else k + 1)
  | true, false => some k
  | false, true => some (k + 1)
  | false, false => none

/-- How many powers of ten lift `num / den` to one or more. -/
def liftToOne (num den : Nat) : Nat → Nat
  | 0 => 0
  | fuel + 1 => if den ≤ num then 0 else liftToOne (num * 10) den fuel + 1

/-- The power of ten of the leading digit. -/
def Interval.leading (i : Interval) : Int :=
  if i.den ≤ i.mid then (digitCount (i.mid / i.den) : Int) - 1
  else -(liftToOne i.mid i.den (Nat.log2 i.den + 1) : Int)

def stripZeros (digits : Nat) (exponent : Int) : Nat → Decimal
  | 0 => ⟨digits, exponent⟩
  | fuel + 1 =>
    if digits % 10 = 0 ∧ digits ≠ 0 then stripZeros (digits / 10) (exponent + 1) fuel
    else ⟨digits, exponent⟩

/-- As many digits as a significand has bits always suffice. -/
def shortest (f : Binary.Format) (mag : Nat) : Decimal :=
  let i := Interval.ofMagnitude f mag
  let top := i.leading
  let found := (List.range (f.fracBits + 2)).findSome? fun (n : Nat) =>
    ((i.onGrid (top - n)).nearest?).map fun k => stripZeros k (top - n) (n + 2)
  found.getD ⟨0, 0⟩

end RulePipeline.Decimal
