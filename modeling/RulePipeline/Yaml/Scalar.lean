import RulePipeline.Content
import RulePipeline.Decimal.Basic
import RulePipeline.Json.Reader
import RulePipeline.Yaml.Tag

/-! What a plain scalar stands for: nothing, a truth value, a number, or its text. -/
namespace RulePipeline.Yaml.Scalar

attribute [local instance (high)] instPowNat

def isNull (s : String) : Bool := ["~", "null", "Null", "NULL"].contains s

def bool? (s : String) : Option Bool :=
  if ["true", "True", "TRUE"].contains s then some true
  else if ["false", "False", "FALSE"].contains s then some false
  else none

def digitsValue? (base : Nat) (cs : List Char) : Option Nat :=
  match cs.mapM Json.hexValue? with
  | some ds =>
    if ds.isEmpty ∨ ds.any (base ≤ ·) then none else some (ds.foldl (fun n d => n * base + d) 0)
  | none => none

/-- Digits after a prefix such as `0x`, or decimal digits. -/
def natural? : List Char → Option Nat
  | '0' :: 'x' :: cs => digitsValue? 16 cs
  | '0' :: 'o' :: cs => digitsValue? 8 cs
  | '0' :: 'b' :: cs => digitsValue? 2 cs
  | cs => digitsValue? 10 cs

def unsigned (cs : List Char) : List Char :=
  match cs with
  | '+' :: rest | '-' :: rest => rest
  | cs => cs

/-- Several digits of which the first is a zero are a text, such as a postal code. -/
def isPaddedDigits (cs : List Char) : Bool :=
  let cs := unsigned cs
  cs.length > 1 && cs.head? == some '0' && cs.all Char.isDigit

/-- Whether there is a minus sign, and the integer without it. -/
def int? (cs : List Char) : Option (Bool × Nat) :=
  if isPaddedDigits cs then none
  else match cs with
    | '-' :: rest => (natural? rest).map fun n => (true, n)
    | '+' :: rest => (natural? rest).map fun n => (false, n)
    | cs => (natural? cs).map fun n => (false, n)

def fits (bits : Nat) (neg : Bool) (mag : Nat) : Bool :=
  if neg then mag ≤ 2 ^ (bits - 1) else mag < 2 ^ bits

def exponent? (cs : List Char) : Option Int :=
  match cs with
  | [] => some 0
  | e :: rest =>
    if e != 'e' && e != 'E' then none
    else match rest with
      | '-' :: ds => (digitsValue? 10 ds).map fun n => -(n : Int)
      | '+' :: ds => (digitsValue? 10 ds).map fun n => (n : Int)
      | ds => (digitsValue? 10 ds).map fun n => (n : Int)

/-- Digits on at least one side of a point, which may be missing, and an exponent. -/
def decimal? (cs : List Char) : Option Decimal := do
  let whole := cs.takeWhile Char.isDigit
  let rest := cs.dropWhile Char.isDigit
  let afterPoint := rest.head? == some '.'
  let frac := if afterPoint then (rest.drop 1).takeWhile Char.isDigit else []
  let rest := if afterPoint then (rest.drop 1).dropWhile Char.isDigit else rest
  if whole.isEmpty && frac.isEmpty then none
  else
    let e ← exponent? rest
    return ⟨Nat.ofDigitChars 10 (whole ++ frac) 0, e - frac.length⟩

/-- A number too large for a double is none. -/
def finite? (neg : Bool) (cs : List Char) : Option Binary64 := do
  let x := (← decimal? cs).toBinary .double neg
  if x.isFinite then some x else none

def infinities : List String := [".inf", ".Inf", ".INF"]

def float? (s : String) : Option Binary64 :=
  if [".nan", ".NaN", ".NAN"].contains s then some .nan
  else
    let cs := s.toList
    let neg := cs.head? == some '-'
    if infinities.contains (String.ofList (unsigned cs)) then some (.infinity neg)
    else finite? neg (unsigned cs)

/-- An integer of more than 64 bits, up to 128, is known for one and can be read as nothing. A
longer one is no integer. -/
def integer? (s : String) : Option (Option Content) :=
  match int? s.toList with
  | some (neg, mag) =>
    if fits 64 neg mag then some (some (.int neg mag))
    else if fits 128 neg mag then some none
    else none
  | none => none

def resolve? (s : String) : Option Content :=
  if s = "" ∨ isNull s then some .null
  else match bool? s with
    | some b => some (.bool b)
    | none =>
      match integer? s with
      | some c => c
      | none =>
        match (if isPaddedDigits s.toList then none else float? s) with
        | some x => some (.float x)
        | none => some (.str s)

/-- A standard tag asks for its type, and any other one for the text, except for a plain scalar
under a local tag that is no text. A tag of the application names a type that is not known here. -/
def ofTagged? (tag : Tag) (s : String) (plain : Bool) : Option Content :=
  if tag.namesType then none
  else if tag = .standard "bool" then (bool? s).map .bool
  else if tag = .standard "int" then (integer? s).join
  else if tag = .standard "float" then (float? s).map .float
  else if tag = .standard "null" then if isNull s then some .null else none
  else if tag.isLocal && plain then resolve? s
  else some (.str s)

def content? (tag : Option Tag) (text : String) (plain : Bool) : Option Content :=
  match tag with
  | some tag => ofTagged? tag text plain
  | none => if plain then resolve? text else some (.str text)

end RulePipeline.Yaml.Scalar
