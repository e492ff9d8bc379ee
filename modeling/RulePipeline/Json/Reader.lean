import RulePipeline.Json.Basic
import RulePipeline.Decimal.Scaled

/-! Reading a JSON document from text. The grammar is strict; nesting stops at 127 levels, a
number beyond the largest double is refused, and of members with one name the last stays. A fault
tells the line and the byte column at which reading stopped. -/
namespace RulePipeline.Json

attribute [local instance (high)] instPowNat

inductive Problem where
  | eofInList
  | eofInObject
  | eofInString
  | eofInValue
  | expectedColon
  | expectedListEnd
  | expectedObjectEnd
  | expectedIdent
  | expectedValue
  | invalidEscape
  | invalidNumber
  | numberOutOfRange
  | controlCharacter
  | keyNotString
  | loneSurrogate
  | trailingComma
  | trailingCharacters
  | shortHexEscape
  | tooDeep

def Problem.text : Problem → String
  | .eofInList => "EOF while parsing a list"
  | .eofInObject => "EOF while parsing an object"
  | .eofInString => "EOF while parsing a string"
  | .eofInValue => "EOF while parsing a value"
  | .expectedColon => "expected `:`"
  | .expectedListEnd => "expected `,` or `]`"
  | .expectedObjectEnd => "expected `,` or `\x7d`"
  | .expectedIdent => "expected ident"
  | .expectedValue => "expected value"
  | .invalidEscape => "invalid escape"
  | .invalidNumber => "invalid number"
  | .numberOutOfRange => "number out of range"
  | .controlCharacter => "control character (\\u0000-\\u001F) found while parsing a string"
  | .keyNotString => "key must be a string"
  | .loneSurrogate => "lone leading surrogate in hex escape"
  | .trailingComma => "trailing comma"
  | .trailingCharacters => "trailing characters"
  | .shortHexEscape => "unexpected end of hex escape"
  | .tooDeep => "recursion limit exceeded"

structure Fault where
  problem : Problem
  line : Nat
  column : Nat

def Fault.message (f : Fault) : String :=
  f.problem.text ++ " at line " ++ toString f.line ++ " column " ++ toString f.column

/-- What is left of the text, and where in it that begins. -/
structure Cursor where
  rest : List Char
  line : Nat
  column : Nat

namespace Cursor

def start (text : String) : Cursor := ⟨text.toList, 1, 0⟩

/-- Past the next character. -/
def advance (c : Cursor) : Cursor :=
  match c.rest with
  | [] => c
  | '\n' :: rest => ⟨rest, c.line + 1, 0⟩
  | ch :: rest => ⟨rest, c.line, c.column + ch.utf8Size⟩

def advanceBy (c : Cursor) : Nat → Cursor
  | 0 => c
  | n + 1 => c.advance.advanceBy n

def blanks (c : Cursor) : Nat :=
  (c.rest.takeWhile fun ch => ch == ' ' || ch == '\t' || ch == '\r' || ch == '\n').length

def skipBlanks (c : Cursor) : Cursor := c.advanceBy c.blanks

/-- A fault at what was read last. -/
def fault (c : Cursor) (p : Problem) : Fault := ⟨p, c.line, c.column⟩

/-- Past so many bytes, perhaps to the middle of a character. -/
def afterBytes (c : Cursor) (bytes : Nat) : Cursor := go bytes c.rest c.line c.column
where
  go : Nat → List Char → Nat → Nat → Cursor
    | 0, rest, line, column => ⟨rest, line, column⟩
    | _, [], line, column => ⟨[], line, column⟩
    | n + 1, '\n' :: rest, line, _ => go n rest (line + 1) 0
    | n + 1, ch :: rest, line, column =>
      go (n + 1 - ch.utf8Size) rest line (column + min ch.utf8Size (n + 1))

/-- A fault at the byte that comes next, if there is one. -/
def faultNext (c : Cursor) (p : Problem) : Fault := (c.afterBytes 1).fault p

end Cursor

abbrev Reader := StateT Cursor (Except Fault)

namespace Reader

def failHere (p : Problem) : Reader α := fun c => .error (c.fault p)

def failNext (p : Problem) : Reader α := fun c => .error (c.faultNext p)

def skip (n : Nat) : Reader Unit := modify (·.advanceBy n)

def peek : Reader (Option Char) := do return (← get).rest.head?

/-- The next character that is not blank, left in place. -/
def peekToken : Reader (Option Char) := do
  modify Cursor.skipBlanks
  peek

def digits : Reader (List Char) := do
  let ds := (← get).rest.takeWhile Char.isDigit
  skip ds.length
  return ds

end Reader

open Reader

def hexValue? (c : Char) : Option Nat :=
  if '0' ≤ c ∧ c ≤ '9' then some (c.toNat - 48)
  else if 'a' ≤ c ∧ c ≤ 'f' then some (c.toNat - 87)
  else if 'A' ≤ c ∧ c ≤ 'F' then some (c.toNat - 55)
  else none

def readHex : Reader Nat := do
  let cs := (← get).rest.take 4
  if (String.ofList cs).utf8ByteSize < 4 then
    skip cs.length
    failHere .eofInString
  else match cs.mapM hexValue? with
    | some [a, b, c, d] =>
      skip 4
      return ((a * 16 + b) * 16 + c) * 16 + d
    | _ => do
      modify (·.afterBytes 4)
      failHere .invalidEscape

/-- The second half of a pair of hex escapes, which together stand for one character. -/
def readLowSurrogate : Reader Nat := do
  for expected in ['\\', 'u'] do
    match ← peek with
    | none => failHere .eofInString
    | some c =>
      if c ≠ expected then failNext .shortHexEscape
      skip 1
  let low ← readHex
  if low < 0xDC00 ∨ 0xDFFF < low then failHere .loneSurrogate
  return low

/-- A character given by its number, after the letter that announces it. -/
def readUnicodeEscape : Reader Char := do
  let n ← readHex
  if 0xDC00 ≤ n ∧ n ≤ 0xDFFF then failHere .loneSurrogate
  if n < 0xD800 ∨ 0xDBFF < n then return Char.ofNat n
  let low ← readLowSurrogate
  return Char.ofNat (0x10000 + (n - 0xD800) * 1024 + (low - 0xDC00))

/-- What one character after a backslash stands for. -/
def shortEscape? : Char → Option Char
  | '"' => some '"'
  | '\\' => some '\\'
  | '/' => some '/'
  | 'b' => some '\x08'
  | 'f' => some '\x0c'
  | 'n' => some '\n'
  | 'r' => some '\r'
  | 't' => some '\t'
  | _ => none

def readEscape : Reader Char := do
  match ← peek with
  | none => failHere .eofInString
  | some 'u' => do
    skip 1
    readUnicodeEscape
  | some c =>
    match shortEscape? c with
    | some e => do
      skip 1
      return e
    | none => failNext .invalidEscape

/-- The rest of a string after its opening quote. -/
def readStringTail : Nat → List Char → Reader String
  | 0, _ => failHere .eofInString
  | fuel + 1, acc => do
    match ← peek with
    | none => failHere .eofInString
    | some c =>
      skip 1
      if c = '"' then return String.ofList acc.reverse
      else if c = '\\' then
        let e ← readEscape
        readStringTail fuel (e :: acc)
      else if c.toNat < 32 then failHere .controlCharacter
      else readStringTail fuel (c :: acc)

def readString : Reader String := do
  skip 1
  readStringTail ((← get).rest.length + 1) []

def readWord (word : List Char) (value : Json) : Reader Json := do
  skip 1
  for expected in word do
    match ← peek with
    | none => failHere .eofInValue
    | some c =>
      if c ≠ expected then failNext .expectedIdent
      skip 1
  return value

/-- The digits after a decimal point, if there is one. -/
def readFraction : Reader (Option (List Char)) := do
  if (← peek) = some '.' then
    skip 1
    let ds ← digits
    if ds.isEmpty then
      match ← peek with
      | none => failNext .eofInValue
      | some _ => failNext .invalidNumber
    return some ds
  else return none

/-- How many digits of an exponent it takes to exceed every exponent of 32 bits. -/
def digitsBeyond (ds : List Char) : Option Nat :=
  (List.range (ds.length + 1)).find? fun n => 2 ^ (31 : Nat) ≤ Nat.ofDigitChars 10 (ds.take n) 0

/-- The exponent, if there is one. A number other than zero is refused as soon as its exponent is
known to be too large. -/
def readExponent (zero : Bool) : Reader (Option Int) := do
  match ← peek with
  | some 'e' | some 'E' =>
    skip 1
    let sign ← peek
    if sign = some '+' ∨ sign = some '-' then skip 1
    match ← peek with
    | none => failHere .eofInValue
    | some c => if !c.isDigit then failNext .invalidNumber
    let beyond := digitsBeyond ((← get).rest.takeWhile Char.isDigit)
    match (if zero || sign == some '-' then none else beyond) with
    | some n => do skip n; failHere .numberOutOfRange
    | none => pure ()
    let n := Nat.ofDigitChars 10 (← digits) 0
    return some (if sign = some '-' then -(n : Int) else n)
  | _ => return none

/-- An integer that no 64-bit word holds is a double, and so is a negative zero. -/
def readNumber : Reader Json := do
  let neg := (← peek) = some '-'
  if neg then skip 1
  match ← peek with
  | none => failHere .eofInValue
  | some c => if !c.isDigit then failNext .invalidNumber
  let ds ← digits
  if ds.length > 1 ∧ ds.head? = some '0' then
    modify fun c => { c with column := c.column + 1 - (ds.length - 1) }
    failHere .invalidNumber
  let fraction ← readFraction
  let d := Decimal.leading ds (fraction.getD [])
  let exponent ← readExponent (d.digits == 0)
  let n := Nat.ofDigitChars 10 ds 0
  let signed : Int := if neg then -(n : Int) else n
  let whole := fraction.isNone && exponent.isNone && !(neg && n == 0)
  match (if whole then int? signed else none) with
  | some j => return j
  | none =>
    let scaled : Decimal := { d with exponent := d.exponent + exponent.getD 0 }
    match Number.ofFloat? (scaled.toScaled neg) with
    | some x => return .num x
    | none => failHere .numberOutOfRange

/-- The items of a list after its opening bracket, and the closing one. -/
def readItems (value : Reader Json) : Nat → Bool → Reader (List Json)
  | 0, _ => failNext .eofInList
  | fuel + 1, first => do
    match ← peekToken with
    | none => failNext .eofInList
    | some ']' => do skip 1; return []
    | some c =>
      if !first then
        if c ≠ ',' then failNext .expectedListEnd
        skip 1
        match ← peekToken with
        | some ']' => failNext .trailingComma
        | none => failNext .eofInValue
        | some _ => pure ()
      let item ← value
      return item :: (← readItems value fuel false)

/-- The members of an object after its opening brace, and the closing one. -/
def readMembers (value : Reader Json) : Nat → Bool → Reader (List (String × Json))
  | 0, _ => failNext .eofInObject
  | fuel + 1, first => do
    match ← peekToken with
    | none => failNext .eofInObject
    | some '\x7d' => do skip 1; return []
    | some c =>
      if first then
        if c ≠ '"' then failNext .keyNotString
      else
        if c ≠ ',' then failNext .expectedObjectEnd
        skip 1
        match ← peekToken with
        | some '"' => pure ()
        | some '\x7d' => failNext .trailingComma
        | some _ => failNext .keyNotString
        | none => failNext .eofInValue
      let name ← readString
      match ← peekToken with
      | some ':' => skip 1
      | some _ => failNext .expectedColon
      | none => failNext .eofInObject
      let item ← value
      return (name, item) :: (← readMembers value fuel false)

/-- A value that may nest `depth` more levels. -/
def readValue (depth : Nat) : Reader Json := do
  match ← peekToken with
  | none => failNext .eofInValue
  | some 'n' => readWord ['u', 'l', 'l'] .null
  | some 't' => readWord ['r', 'u', 'e'] (.bool true)
  | some 'f' => readWord ['a', 'l', 's', 'e'] (.bool false)
  | some '"' => return .str (← readString)
  | some '[' =>
    match depth with
    | 0 => failNext .tooDeep
    | depth + 1 => do
      skip 1
      return .arr (← readItems (readValue depth) ((← get).rest.length + 1) true)
  | some '\x7b' =>
    match depth with
    | 0 => failNext .tooDeep
    | depth + 1 => do
      skip 1
      return .obj (Entries.ofList (← readMembers (readValue depth) ((← get).rest.length + 1) true))
  | some c => if c == '-' || c.isDigit then readNumber else failNext .expectedValue

def maxDepth : Nat := 127

def read (text : String) : Except Fault Json :=
  let whole : Reader Json := do
    let j ← readValue maxDepth
    match ← peekToken with
    | none => return j
    | some _ => failNext .trailingCharacters
  (·.1) <$> whole (Cursor.start text)

end RulePipeline.Json
