import RulePipeline.Json.Reader
import RulePipeline.Yaml.Cursor

/-! The texts of scalars: plain, between quotes, and in blocks. Inside plain and quoted scalars a
single line break becomes a space, and of several the first is dropped. -/
namespace RulePipeline.Yaml

/-- Blanks and breaks of which it is not known yet whether text follows. -/
structure Gap where
  /-- Blanks on the line of the text before, last first. -/
  blanks : List Char
  first : List Char
  /-- Breaks after the first, last first. -/
  later : List Char
  broken : Bool

namespace Gap

def empty : Gap := ⟨[], [], [], false⟩

/-- What stands between two pieces of text. -/
def text (g : Gap) : List Char :=
  if !g.broken then g.blanks.reverse
  else if g.first = ['\n'] then
    if g.later.isEmpty then [' '] else g.later.reverse
  else g.first ++ g.later.reverse

def addBlank (g : Gap) (c : Char) : Gap :=
  if g.broken then g else { g with blanks := c :: g.blanks }

def addBreak (g : Gap) (b : List Char) : Gap :=
  if g.broken then { g with later := b.reverse ++ g.later }
  else { g with blanks := [], first := b, broken := true }

end Gap

/-- Over blanks and breaks. After a break, tabs may not stand left of `indent`. -/
def readGap (indent : Option Int) : Nat → Gap → Cursor → Except Fault (Gap × Cursor)
  | 0, g, c => .ok (g, c)
  | fuel + 1, g, c =>
    match c.peek with
    | none => .ok (g, c)
    | some ch =>
      if isBlank ch then
        if g.broken ∧ ch = '\t' ∧ indent.any ((c.column : Int) < ·) then .error .tabIndent
        else readGap indent fuel (g.addBlank ch) (c.skip 1)
      else if isBreak ch then
        let (b, c) := c.readBreak
        readGap indent fuel (g.addBreak b) c
      else .ok (g, c)

def isFlowIndicator (c : Char) : Bool :=
  c == ',' || c == '[' || c == ']' || c == '\x7b' || c == '\x7d'

/-- How many characters belong to a plain scalar before a blank or an indicator ends the word. -/
def plainRun (flow : Bool) : List Char → Except Fault Nat
  | [] => .ok 0
  | c :: rest =>
    if isBlank c || isBreak c then .ok 0
    else if flow && c == ':' && rest.head?.any (fun d => isFlowIndicator d || d == '?') then
      .error .colonUnexpected
    else if (c == ':' && endsWord rest.head?) || (flow && isFlowIndicator c) then .ok 0
    else do return (← plainRun flow rest) + 1

/-- The text so far, last character first, and the gap after it. -/
def readPlainFrom (flow : Bool) (indent : Int) :
    Nat → List Char → Gap → Cursor → Except Fault (List Char × Bool × Cursor)
  | 0, out, g, c => .ok (out, g.broken, c)
  | fuel + 1, out, g, c => do
    if c.atDocumentMark || c.peek == some '#' then return (out, g.broken, c)
    let n ← plainRun flow c.rest
    let (out, g) :=
      if n = 0 then (out, g)
      else ((c.rest.take n).reverse ++ (g.text.reverse ++ out), Gap.empty)
    let c := c.skip n
    match c.peek with
    | none => return (out, g.broken, c)
    | some ch =>
      if !(isBlank ch || isBreak ch) then return (out, g.broken, c)
      let (g, c) ← readGap (some indent) (c.rest.length + 1) g c
      if !flow ∧ (c.column : Int) < indent then return (out, g.broken, c)
      readPlainFrom flow indent fuel out g c

/-- A plain scalar, and whether a line break was passed after it. -/
def readPlain (flow : Bool) (indent : Int) (c : Cursor) :
    Except Fault (String × Bool × Cursor) := do
  let (out, broken, c) ← readPlainFrom flow indent (c.rest.length + 1) [] .empty c
  return (String.ofList out.reverse, broken, c)

/-- What follows a backslash: one character, or digits that give its code point. -/
def escapeOf : Char → Option (Char ⊕ Nat)
  | '0' => some (.inl '\x00')
  | 'a' => some (.inl '\x07')
  | 'b' => some (.inl '\x08')
  | 't' | '\t' => some (.inl '\t')
  | 'n' => some (.inl '\n')
  | 'v' => some (.inl '\x0b')
  | 'f' => some (.inl '\x0c')
  | 'r' => some (.inl '\r')
  | 'e' => some (.inl '\x1b')
  | ' ' => some (.inl ' ')
  | '"' => some (.inl '"')
  | '/' => some (.inl '/')
  | '\\' => some (.inl '\\')
  | 'N' => some (.inl '\x85')
  | '_' => some (.inl '\xa0')
  | 'L' => some (.inl '\u2028')
  | 'P' => some (.inl '\u2029')
  | 'x' => some (.inr 2)
  | 'u' => some (.inr 4)
  | 'U' => some (.inr 8)
  | _ => none

def codePoint (digits : List Char) (width : Nat) : Except Fault Char :=
  match digits.mapM Json.hexValue? with
  | some ds =>
    let n := ds.foldl (fun n d => n * 16 + d) 0
    if ds.length = width ∧ n.isValidChar then .ok (Char.ofNat n) else .error .badEscape
  | none => .error .badEscape

/-- One word of a quoted scalar: up to a blank, a break or the closing quote. An escaped break
ends the word too. The text is collected last character first. -/
def readQuotedWord (quote : Char) :
    Nat → List Char → Cursor → Except Fault (List Char × Bool × Cursor)
  | 0, out, c => .ok (out, false, c)
  | fuel + 1, out, c =>
    match c.peek with
    | none => .ok (out, false, c)
    | some ch =>
      if isBlank ch || isBreak ch then .ok (out, false, c)
      else if quote = '\'' then
        if ch = quote then
          if c.peekAt 1 = some quote then readQuotedWord quote fuel (quote :: out) (c.skip 2)
          else .ok (out, false, c)
        else readQuotedWord quote fuel (ch :: out) (c.skip 1)
      else if ch = quote then .ok (out, false, c)
      else if ch = '\\' then
        match c.peekAt 1 with
        | none => .error .badEscape
        | some e =>
          if isBreak e then .ok (out, true, (c.skip 1).skipBreak)
          else match escapeOf e with
            | none => .error .badEscape
            | some (.inl d) => readQuotedWord quote fuel (d :: out) (c.skip 2)
            | some (.inr width) => do
              let d ← codePoint ((c.rest.drop 2).take width) width
              readQuotedWord quote fuel (d :: out) (c.skip (2 + width))
      else readQuotedWord quote fuel (ch :: out) (c.skip 1)

def readQuotedFrom (quote : Char) :
    Nat → List Char → Cursor → Except Fault (List Char × Cursor)
  | 0, _, _ => .error .unexpectedEnd
  | fuel + 1, out, c => do
    if c.atDocumentMark then throw .documentInQuotes
    if c.peek.isNone then throw .unexpectedEnd
    let (out, joined, c) ← readQuotedWord quote (c.rest.length + 1) out c
    if c.peek = some quote then return (out, c.skip 1)
    let gap : Gap := { Gap.empty with broken := joined }
    let (g, c) ← readGap none (c.rest.length + 1) gap c
    readQuotedFrom quote fuel (g.text.reverse ++ out) c

/-- A scalar between quotes, from its opening quote on. -/
def readQuoted (quote : Char) (c : Cursor) : Except Fault (String × Cursor) := do
  let (out, c) ← readQuotedFrom quote (c.rest.length + 1) [] (c.skip 1)
  return (String.ofList out.reverse, c)

inductive Chomping where
  | strip
  | clip
  | keep
  deriving DecidableEq

/-- The signs after a block indicator, in either order: how to treat the last breaks, and by how
much the block is indented. -/
def readBlockHeader (c : Cursor) : Except Fault (Chomping × Option Nat × Cursor) := do
  let chomping (c : Cursor) : Option Chomping :=
    match c.peek with
    | some '+' => some .keep
    | some '-' => some .strip
    | _ => none
  let indentation (c : Cursor) : Except Fault (Option Nat) :=
    match c.peek with
    | some '0' => .error .badBlockHeader
    | some d => .ok (if d.isDigit then some (d.toNat - 48) else none)
    | none => .ok none
  match chomping c with
  | some ch =>
    let c := c.skip 1
    match ← indentation c with
    | some n => return (ch, some n, c.skip 1)
    | none => return (ch, none, c)
  | none =>
    match ← indentation c with
    | none => return (.clip, none, c)
    | some n =>
      let c := c.skip 1
      match chomping c with
      | some ch => return (ch, some n, c.skip 1)
      | none => return (.clip, some n, c)

/-- Over indentation and empty lines; the breaks, last first, and the widest indentation met.
Without a given indentation every space counts as one. -/
def readBlockBreaks (indent : Option Nat) :
    Nat → List Char → Nat → Cursor → Except Fault (List Char × Nat × Cursor)
  | 0, breaks, widest, c => .ok (breaks, widest, c)
  | fuel + 1, breaks, widest, c => do
    let spaces := (c.rest.takeWhile (· == ' ')).length
    let c := c.skip (match indent with
      | some n => min spaces (n - c.column)
      | none => spaces)
    let widest := max widest c.column
    if c.peek = some '\t' ∧ indent.all (c.column < ·) then throw .tabIndent
    if c.peek.any isBreak then
      let (b, c) := c.readBreak
      readBlockBreaks indent fuel (b.reverse ++ breaks) widest c
    else return (breaks, widest, c)

structure BlockText where
  /-- The text before the last break, last character first. -/
  out : List Char
  /-- The break after the text. -/
  first : List Char
  /-- The breaks after that, last first. -/
  later : List Char
  afterBlank : Bool

/-- The lines of a block. In a folded one, the break between two lines that do not start with a
blank becomes a space. -/
def readBlockLines (literal : Bool) (indent : Nat) :
    Nat → BlockText → Cursor → Except Fault (BlockText × Cursor)
  | 0, b, c => .ok (b, c)
  | fuel + 1, b, c => do
    if c.column ≠ indent ∨ c.peek.isNone then return (b, c)
    let blank := c.peek.any isBlank
    let joint :=
      if !literal ∧ b.first = ['\n'] ∧ !b.afterBlank ∧ !blank then
        if b.later.isEmpty then [' '] else []
      else b.first
    let line := c.rest.takeWhile (!isBreak ·)
    let out := line.reverse ++ (b.later ++ (joint.reverse ++ b.out))
    let (first, c) := (c.skip line.length).readBreak
    let (later, _, c) ← readBlockBreaks (some indent) (c.rest.length + 1) [] 0 c
    readBlockLines literal indent fuel ⟨out, first, later, blank⟩ c

/-- A block scalar below an indentation, from its indicator on. -/
def readBlock (literal : Bool) (parent : Int) (c : Cursor) : Except Fault (String × Cursor) := do
  let (chomping, increment, c) ← readBlockHeader (c.skip 1)
  let c := c.skipBlanks.skipComment
  if !endsLine c.peek then throw .badBlockHeader
  let c := c.skipBreak
  let given := increment.map fun n => parent.toNat + n
  let (breaks, widest, c) ← readBlockBreaks given (c.rest.length + 1) [] 0 c
  let indent := given.getD (max widest (max (parent + 1).toNat 1))
  let (b, c) ← readBlockLines literal indent (c.rest.length + 1) ⟨[], [], breaks, false⟩ c
  let tail := match chomping with
    | .strip => []
    | .clip => b.first
    | .keep => b.first ++ b.later.reverse
  return (String.ofList (b.out.reverse ++ tail), c)

end RulePipeline.Yaml
