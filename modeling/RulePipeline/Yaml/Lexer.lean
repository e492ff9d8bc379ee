import RulePipeline.Yaml.ScalarText

/-! From text to tokens. Indentation opens and closes block collections; a colon turns what stands
before it on the line into a key, which is why each level of brackets remembers where a key may
have begun. -/
namespace RulePipeline.Yaml

/-- Where a key may have begun. A required one is the first thing on a line at the indentation of
the enclosing block. -/
structure PossibleKey where
  required : Bool
  position : Nat
  index : Nat
  line : Nat
  column : Nat

structure Lexer where
  cursor : Cursor
  /-- The tokens so far, last first. -/
  tokens : List Token
  flowLevel : Nat
  /-- The column of the innermost block, or -1 outside of any. -/
  indent : Int
  outerIndents : List Int
  keyAllowed : Bool
  /-- The possible key of each level of brackets, innermost first. -/
  keys : List (Option PossibleKey)

namespace Lexer

def start (text : List Char) : Lexer := ⟨.start text, [], 0, -1, [], true, [none]⟩

def inFlow (s : Lexer) : Bool := s.flowLevel != 0

def push (s : Lexer) (t : Token) : Lexer := { s with tokens := t :: s.tokens }

/-- Puts a token in so that it comes at this position. -/
def pushAt (s : Lexer) (position : Nat) (t : Token) : Lexer :=
  let n := s.tokens.length - position
  { s with tokens := s.tokens.take n ++ t :: s.tokens.drop n }

def skip (s : Lexer) (n : Nat) : Lexer := { s with cursor := s.cursor.skip n }

def topKey (s : Lexer) : Option PossibleKey := s.keys.head?.join

def setTopKey (s : Lexer) (k : Option PossibleKey) : Lexer := { s with keys := k :: s.keys.tail }

/-- Gives up the possible key of this level. -/
def dropKey (s : Lexer) : Except Fault Lexer :=
  if s.topKey.any (·.required) then .error .colonExpected else .ok (s.setTopKey none)

def saveKey (s : Lexer) : Except Fault Lexer :=
  if s.keyAllowed then do
    let c := s.cursor
    let required := !s.inFlow && s.indent == c.column
    return (← s.dropKey).setTopKey (some ⟨required, s.tokens.length, c.index, c.line, c.column⟩)
  else .ok s

/-- A key fits on one line and in 1024 bytes. -/
def isStale (c : Cursor) (k : PossibleKey) : Bool := k.line < c.line || k.index + 1024 < c.index

def dropStaleKeys (s : Lexer) : Except Fault Lexer := do
  let keys ← s.keys.mapM fun k =>
    match k with
    | none => pure none
    | some k =>
      if !isStale s.cursor k then pure (some k)
      else if k.required then throw .colonExpected
      else pure none
  return { s with keys }

/-- Opens a block at a column right of the current one. -/
def openBlock (s : Lexer) (column : Nat) (position : Option Nat) (t : Token) : Lexer :=
  if s.inFlow || column ≤ s.indent then s
  else
    let s := { s with outerIndents := s.indent :: s.outerIndents, indent := column }
    match position with
    | some p => s.pushAt p t
    | none => s.push t

/-- Closes the blocks that stand right of a column. -/
def closeBlocks (column : Int) (s : Lexer) : List Int → Lexer
  | [] => s
  | outer :: rest =>
    if s.indent ≤ column then s
    else closeBlocks column
      { s.push .blockEnd with indent := outer, outerIndents := rest } rest

def unrollTo (s : Lexer) (column : Int) : Lexer :=
  if s.inFlow then s else s.closeBlocks column s.outerIndents

/-- Over blanks, comments and breaks. Tabs separate only where no key can start. -/
def skipToToken : Nat → Lexer → Lexer
  | 0, s => s
  | fuel + 1, s =>
    let tabs := s.inFlow || !s.keyAllowed
    let c := s.cursor.skipMark.skipWhile fun ch => ch == ' ' || (tabs && ch == '\t')
    let c := c.skipComment
    if c.peek.any isBreak then
      skipToToken fuel { s with cursor := c.skipBreak, keyAllowed := s.keyAllowed || !s.inFlow }
    else { s with cursor := c }

def wordLength (c : Cursor) (start : Nat) : Nat := ((c.rest.drop start).takeWhile isWordChar).length

def takeText (c : Cursor) (start n : Nat) : String := String.ofList ((c.rest.drop start).take n)

/-! Anchors, tags and directives -/

/-- What may follow the name of an anchor. -/
def endsAnchor (c : Option Char) : Bool :=
  endsWord c || c.any fun c => ['?', ':', ',', ']', '\x7d', '%', '@', '`'].contains c

def readAnchor (c : Cursor) : Except Fault (String × Cursor) :=
  let n := wordLength c 1
  if n = 0 ∨ !endsAnchor (c.peekAt (n + 1)) then .error .badAnchor
  else .ok (takeText c 1 n, c.skip (n + 1))

def isUriChar (extended : Bool) (c : Char) : Bool :=
  isWordChar c || ";/?:@&=+$.!~*'()%".toList.contains c ||
    (extended && (c == ',' || c == '[' || c == ']'))

/-- The bytes of a text in which a percent sign and two digits stand for one byte. The bytes of one
character are given together; so many more are needed for it. -/
def uriBytes : Nat → List Char → Except Fault (List UInt8)
  | 0, [] => .ok []
  | needed, '%' :: a :: b :: rest => do
    let octet ← match Json.hexValue? a, Json.hexValue? b with
      | some a, some b => pure (a * 16 + b)
      | _, _ => throw .badTag
    let needed ← match needed with
      | 0 =>
        match Tag.following? octet with
        | some n => pure n
        | none => throw .badTag
      | n + 1 => if octet / 64 = 2 then pure n else throw .badTag
    return UInt8.ofNat octet :: (← uriBytes needed rest)
  | 0, c :: rest => do
    if c = '%' then throw .badTag
    return UInt8.ofNat c.toNat :: (← uriBytes 0 rest)
  | _ + 1, _ => .error .badTag

/-- A suffix of at least so many characters. -/
def readUri (extended : Bool) (least : Nat) (c : Cursor) : Except Fault (Tag × Cursor) := do
  let cs := c.rest.takeWhile (isUriChar extended)
  if cs.length < least then throw .badTag
  return (.ended (← uriBytes 0 cs), c.skip cs.length)

/-- The length of a handle: one mark, or a name between two marks. -/
def handleLength (c : Cursor) : Nat :=
  let n := wordLength c 1
  if c.peekAt (n + 1) = some '!' then n + 2 else 1

def readTagText (c : Cursor) : Except Fault (String × Tag × Cursor) := do
  if c.peekAt 1 = some '<' then
    let (suffix, c) ← readUri true 1 (c.skip 2)
    if c.peek ≠ some '>' then throw .badTag
    return ("", suffix, c.skip 1)
  let n := handleLength c
  let named := n > 1
  let (suffix, rest) ← readUri false (if named then 1 else 0) (c.skip n)
  if named then return (takeText c 0 n, suffix, rest)
  if suffix.isEmpty then return ("", .ofText "!", rest)
  return ("!", suffix, rest)

def readTag (inFlow : Bool) (c : Cursor) : Except Fault (Token × Cursor) := do
  let (handle, suffix, c) ← readTagText c
  if !(inFlow && c.peek == some ',') && !endsWord c.peek then throw .badTag
  return (.tag handle suffix, c)

def readVersionNumber (c : Cursor) : Except Fault (Nat × Cursor) :=
  let ds := c.rest.takeWhile Char.isDigit
  if ds.isEmpty ∨ ds.length > 9 then .error .badDirective
  else .ok (Nat.ofDigitChars 10 ds 0, c.skip ds.length)

def readVersion (c : Cursor) : Except Fault (Token × Cursor) := do
  let (major, c) ← readVersionNumber c.skipBlanks
  if c.peek ≠ some '.' then throw .badDirective
  let (minor, c) ← readVersionNumber (c.skip 1)
  return (.version major minor, c)

def readTagDirective (c : Cursor) : Except Fault (Token × Cursor) := do
  let c := c.skipBlanks
  let n := handleLength c
  if c.peek ≠ some '!' ∨ (n = 1 ∧ wordLength c 1 ≠ 0) then throw .badDirective
  let after := c.skip n
  if !after.peek.any isBlank then throw .badDirective
  let (leading, rest) ← readUri true 1 after.skipBlanks
  if !endsWord rest.peek then throw .badDirective
  return (.tagDirective (takeText c 0 n) leading, rest)

def readDirective (c : Cursor) : Except Fault (Token × Cursor) := do
  let n := wordLength c 1
  let rest := c.skip (n + 1)
  if !endsWord rest.peek then throw .badDirective
  let (t, rest) ← match takeText c 1 n with
    | "YAML" => readVersion rest
    | "TAG" => readTagDirective rest
    | _ => throw .badDirective
  let rest := rest.skipBlanks.skipComment
  if !endsLine rest.peek then throw .badDirective
  return (t, rest.skipBreak)

/-! Tokens -/

/-- Ends all blocks; what follows starts afresh. -/
def endBlocks (s : Lexer) : Except Fault Lexer := do
  return { ← (s.unrollTo (-1)).dropKey with keyAllowed := false }

def fetchDirective (s : Lexer) : Except Fault Lexer := do
  let s ← s.endBlocks
  let (t, c) ← readDirective s.cursor
  return { s with cursor := c }.push t

def fetchDocumentMark (s : Lexer) (t : Token) : Except Fault Lexer := do
  return ((← s.endBlocks).skip 3).push t

def fetchFlowStart (s : Lexer) (t : Token) : Except Fault Lexer := do
  let s ← s.saveKey
  let s := { s with flowLevel := s.flowLevel + 1, keys := none :: s.keys, keyAllowed := true }
  return (s.skip 1).push t

def fetchFlowEnd (s : Lexer) (t : Token) : Except Fault Lexer := do
  let s ← s.dropKey
  let s := if s.inFlow then { s with flowLevel := s.flowLevel - 1, keys := s.keys.tail } else s
  return ({ s with keyAllowed := false }.skip 1).push t

def fetchFlowEntry (s : Lexer) : Except Fault Lexer := do
  return ({ ← s.dropKey with keyAllowed := true }.skip 1).push .flowEntry

def fetchBlockEntry (s : Lexer) : Except Fault Lexer := do
  if !s.inFlow && !s.keyAllowed then throw .entryNotAllowed
  let s ← (s.openBlock s.cursor.column none .blockSequenceStart).dropKey
  return ({ s with keyAllowed := true }.skip 1).push .blockEntry

def fetchKey (s : Lexer) : Except Fault Lexer := do
  if !s.inFlow && !s.keyAllowed then throw .keyNotAllowed
  let s ← (s.openBlock s.cursor.column none .blockMappingStart).dropKey
  return ({ s with keyAllowed := !s.inFlow }.skip 1).push .key

def fetchValue (s : Lexer) : Except Fault Lexer := do
  match s.topKey with
  | some k =>
    let s := (s.pushAt k.position .key).openBlock k.column (some k.position) .blockMappingStart
    return ({ s.setTopKey none with keyAllowed := false }.skip 1).push .value
  | none =>
    if !s.inFlow && !s.keyAllowed then throw .valueNotAllowed
    let s := s.openBlock s.cursor.column none .blockMappingStart
    return ({ s with keyAllowed := !s.inFlow }.skip 1).push .value

/-- A token that may be the start of a key. -/
def fetchNodePart (s : Lexer) (read : Cursor → Except Fault (Token × Cursor)) :
    Except Fault Lexer := do
  let s ← s.saveKey
  let (t, c) ← read s.cursor
  return { s with cursor := c, keyAllowed := false }.push t

def fetchBlockScalar (s : Lexer) (literal : Bool) : Except Fault Lexer := do
  let s ← s.dropKey
  let (text, c) ← readBlock literal s.indent s.cursor
  return { s with cursor := c, keyAllowed := true }.push (.scalar text false)

def fetchPlain (s : Lexer) : Except Fault Lexer := do
  let s ← s.saveKey
  let (text, broken, c) ← readPlain s.inFlow (s.indent + 1) s.cursor
  return { s with cursor := c, keyAllowed := broken }.push (.scalar text true)

/-- Whether a plain scalar may start with this character before that one. -/
def startsPlain (inFlow : Bool) (c : Char) (next : Option Char) : Bool :=
  if c == '-' then !next.any isBlank
  else if c == '?' || c == ':' then !inFlow && !endsWord next
  else !(isBlank c || isFlowIndicator c || "#&*!|>'\"%@`".toList.contains c)

/-- The next token, from a place where one starts. -/
def fetch (s : Lexer) (c : Char) : Except Fault Lexer :=
  let cursor := s.cursor
  let next := cursor.peekAt 1
  if cursor.column == 0 && c == '%' then s.fetchDirective
  else if cursor.atDocumentMark then
    s.fetchDocumentMark (if c == '-' then .documentStart else .documentEnd)
  else if c == '[' then s.fetchFlowStart .flowSequenceStart
  else if c == '\x7b' then s.fetchFlowStart .flowMappingStart
  else if c == ']' then s.fetchFlowEnd .flowSequenceEnd
  else if c == '\x7d' then s.fetchFlowEnd .flowMappingEnd
  else if c == ',' then s.fetchFlowEntry
  else if c == '-' && endsWord next then s.fetchBlockEntry
  else if c == '?' && (s.inFlow || endsWord next) then s.fetchKey
  else if c == ':' && (s.inFlow || endsWord next) then s.fetchValue
  else if c == '*' then s.fetchNodePart fun c => do
    let (name, c) ← readAnchor c
    return (.alias name, c)
  else if c == '&' then s.fetchNodePart fun c => do
    let (name, c) ← readAnchor c
    return (.anchor name, c)
  else if c == '!' then s.fetchNodePart (readTag s.inFlow)
  else if c == '|' && !s.inFlow then s.fetchBlockScalar true
  else if c == '>' && !s.inFlow then s.fetchBlockScalar false
  else if c == '\'' || c == '"' then s.fetchNodePart fun cursor => do
    let (text, cursor) ← readQuoted c cursor
    return (.scalar text false, cursor)
  else if startsPlain s.inFlow c next then s.fetchPlain
  else .error .badCharacter

def fetchAll : Nat → Lexer → Except Fault Lexer
  | 0, _ => .error .unexpectedEnd
  | fuel + 1, s => do
    let s ← (skipToToken (s.cursor.rest.length + 1) s).dropStaleKeys
    let s := s.unrollTo s.cursor.column
    match s.cursor.peek with
    | none => return (← (s.unrollTo (-1)).dropKey).push .streamEnd
    | some c => fetchAll fuel (← s.fetch c)

end Lexer

/-- Each token takes at least one character, so their number bounds the number of steps. -/
def tokens (text : String) : Except Fault (List Token) := do
  let cs := text.toList
  if !cs.all isAllowed then throw .controlCharacter
  let s ← (Lexer.start cs).fetchAll (cs.length + 1)
  return s.tokens.reverse

end RulePipeline.Yaml
