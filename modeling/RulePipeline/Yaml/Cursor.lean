import RulePipeline.Yaml.Token

/-! A place in a YAML text, and the classes of characters that matter to its layout. -/
namespace RulePipeline.Yaml

def isBreak (c : Char) : Bool :=
  c == '\n' || c == '\r' || c == '\x85' || c == '\u2028' || c == '\u2029'

def isBlank (c : Char) : Bool := c == ' ' || c == '\t'

/-- Letters, digits, hyphen and underscore, in ASCII. -/
def isWordChar (c : Char) : Bool := c.isAlphanum || c == '-' || c == '_'

/-- What a text may consist of. -/
def isAllowed (c : Char) : Bool :=
  let n := c.toNat
  n == 9 || n == 10 || n == 13 || (32 ≤ n && n ≤ 126) || n == 0x85 ||
    (0xA0 ≤ n && n ≤ 0xD7FF) || (0xE000 ≤ n && n ≤ 0xFFFD) || 0x10000 ≤ n

/-- The end of the text counts as a break. -/
def endsLine : Option Char → Bool
  | none => true
  | some c => isBreak c

def endsWord : Option Char → Bool
  | none => true
  | some c => isBlank c || isBreak c

structure Cursor where
  rest : List Char
  /-- How many bytes there are before this place. -/
  index : Nat
  line : Nat
  column : Nat

namespace Cursor

def start (text : List Char) : Cursor := ⟨text, 0, 0, 0⟩

def peek (c : Cursor) : Option Char := c.rest.head?

def peekAt (c : Cursor) (n : Nat) : Option Char := c.rest[n]?

def bytes (cs : List Char) : Nat := cs.foldl (fun n c => n + c.utf8Size) 0

/-- Past characters of which none is a break. -/
def skip (c : Cursor) (n : Nat) : Cursor :=
  ⟨c.rest.drop n, c.index + bytes (c.rest.take n), c.line, c.column + n⟩

/-- Past a line break, if there is one, with the text that it stands for. -/
def readBreak (c : Cursor) : List Char × Cursor :=
  let past (rest : List Char) (bytes : Nat) : Cursor := ⟨rest, c.index + bytes, c.line + 1, 0⟩
  match c.rest with
  | '\r' :: '\n' :: rest => (['\n'], past rest 2)
  | ch :: rest =>
    if ch == '\u2028' || ch == '\u2029' then ([ch], past rest ch.utf8Size)
    else if isBreak ch then (['\n'], past rest ch.utf8Size)
    else ([], c)
  | [] => ([], c)

def skipBreak (c : Cursor) : Cursor := c.readBreak.2

def skipWhile (c : Cursor) (p : Char → Bool) : Cursor := c.skip (c.rest.takeWhile p).length

def skipBlanks (c : Cursor) : Cursor := c.skipWhile isBlank

/-- Past a byte order mark at the start of a line. -/
def skipMark (c : Cursor) : Cursor :=
  if c.column = 0 ∧ c.peek = some '\ufeff' then c.skip 1 else c

/-- Up to the break at the end of a comment, if one starts here. -/
def skipComment (c : Cursor) : Cursor :=
  if c.peek = some '#' then c.skipWhile (!isBreak ·) else c

/-- Whether a line of three marks starts here that separates documents. -/
def atDocumentMark (c : Cursor) : Bool :=
  c.column == 0 && (c.rest.take 3 == ['-', '-', '-'] || c.rest.take 3 == ['.', '.', '.']) &&
    endsWord (c.peekAt 3)

end Cursor

end RulePipeline.Yaml
