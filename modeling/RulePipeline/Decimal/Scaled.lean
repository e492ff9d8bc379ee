import RulePipeline.Decimal.Basic

/-! Reading a decimal quickly: only the leading digits that fit a word count, they become a double,
and that double is multiplied or divided by a power of ten. Each of the steps rounds, so that the
result may be a neighbour of the nearest double. -/
namespace RulePipeline.Decimal

attribute [local instance (high)] instPowNat

def wordLimit : Nat := 2 ^ (64 : Nat)

/-- Digits appended to a word as long as it stays one, and the digits that are left then. -/
def appendDigits (word : Nat) : List Char → Nat × List Char
  | [] => (word, [])
  | d :: ds =>
    let longer := Nat.ofDigitChars 10 [d] word
    if longer < wordLimit then appendDigits longer ds else (word, d :: ds)

/-- The decimal of the leading digits. Digits before the point that are left out keep their places,
and the digits after it are tried all the same. -/
def leading (whole fraction : List Char) : Decimal :=
  let (word, beyond) := appendDigits 0 whole
  let (word, left) := appendDigits word fraction
  ⟨word, (beyond.length : Int) - (fraction.length - left.length : Nat)⟩

/-- Infinite, if it is beyond every double. -/
def powerOfTen (n : Nat) : Binary64 := toBinary .double false ⟨1, n⟩

/-- The exponent of the greatest power of ten among the doubles. -/
def greatestPower : Nat := 308

/-- Divides by the greatest power of ten, this often or until nothing is left. -/
def shrink : Nat → Binary64 → Binary64
  | 0, x => x
  | n + 1, x => if x.isZero then x else shrink n (x.div (powerOfTen greatestPower))

/-- A double times a power of ten. Divisors beyond the greatest power are taken in several steps. -/
def scale (x : Binary64) : Int → Binary64
  | .ofNat n => if x.isZero then x else x.mul (powerOfTen n)
  | .negSucc n => (shrink (n / greatestPower) x).div (powerOfTen (n % greatestPower + 1))

/-- The double of the digits, scaled. -/
def toScaled (neg : Bool) (d : Decimal) : Binary64 :=
  scale (.ofUnits neg (d.digits * 2 ^ Binary.Format.double.scale) 1) d.exponent

end RulePipeline.Decimal
