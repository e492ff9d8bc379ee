import RulePipeline.Yaml.Lexer

/-! From tokens to the tree of a single document. An anchor is kept in a slot, and an alias refers
to a slot; what stands in a slot is settled at the end of the document. -/
namespace RulePipeline.Yaml

inductive Node where
  | alias (slot : Nat)
  | scalar (tag : Option Tag) (text : String) (plain : Bool)
  | seq (tag : Option Tag) (items : List Node)
  | map (tag : Option Tag) (entries : List (Node × Node))

structure Document where
  root : Node
  /-- What stands in the slots. -/
  slots : List (Nat × Node)
  /-- How many starts and ends of collections, scalars and aliases there are. -/
  events : Nat

namespace Node

/-- What is read on the way through a document. -/
structure Progress where
  tokens : List Token
  /-- The slots of the names that have been given to anchors. -/
  names : List (String × Nat)
  /-- The anchor in each slot, by its place among the anchors. A later one stands first. -/
  slots : List (Nat × Nat)
  /-- The nodes of the anchors, as far as they have been read to their ends. -/
  anchored : List (Nat × Node)
  /-- Leading bytes of tags by their handles. -/
  handles : List (String × Tag)
  events : Nat

def Progress.start (ts : List Token) : Progress := ⟨ts, [], [], [], [], 0⟩

/-- Puts an anchor into the slot that counts the names so far. A name that comes again moves to a
new slot, without counting twice: the next new name takes over that slot. -/
def Progress.open (p : Progress) (name : String) : Progress :=
  let slot := p.names.length
  { p with
    names := (name, slot) :: p.names.filter (·.1 ≠ name)
    slots := (slot, p.slots.length) :: p.slots }

/-- The slots with what stands in them last. -/
def Progress.contents (p : Progress) : List (Nat × Node) :=
  p.slots.filterMap fun (slot, anchor) => (p.anchored.lookup anchor).map fun n => (slot, n)

abbrev Parser := StateT Progress (Except Fault)

def record (events : Nat) : Parser Unit := modify fun p => { p with events := p.events + events }

def scalarOf (tag : Option Tag) (text : String) (plain : Bool) : Parser Node := do
  record 1
  return .scalar tag text plain

def seqOf (tag : Option Tag) (items : List Node) : Parser Node := do
  record 2
  return .seq tag items

def mapOf (tag : Option Tag) (entries : List (Node × Node)) : Parser Node := do
  record 2
  return .map tag entries

/-- What stands where nothing is written. -/
def nothing : Parser Node := scalarOf none "" true

def peek : Parser (Option Token) := do return (← get).tokens.head?

def next : Parser Unit := modify fun p => { p with tokens := p.tokens.tail }

/-- Takes the next token if it is the given one. -/
def accept (t : Token) : Parser Bool := do
  if (← peek) = some t then
    next
    return true
  else return false

def fail (f : Fault) : Parser α := throw f

/-- Whether one of these tokens comes next. -/
def atAny (ts : List Token) : Parser Bool := do
  match ← peek with
  | some t => return ts.contains t
  | none => return true

def resolveTag (handle : String) (suffix : Tag) : Parser Tag := do
  if handle = "" then return suffix
  match (← get).handles.lookup handle with
  | some leading => return leading ++ suffix
  | none => fail .undefinedTagHandle

/-- Anchor and tag before a node, each at most once and in any order. -/
def properties : Nat → Option String → Option Tag → Parser (Option String × Option Tag)
  | 0, anchor, tag => return (anchor, tag)
  | fuel + 1, anchor, tag => do
    match ← peek, anchor, tag with
    | some (.anchor name), none, tag =>
      next
      properties fuel (some name) tag
    | some (.tag handle suffix), anchor, none =>
      next
      properties fuel anchor (some (← resolveTag handle suffix))
    | _, anchor, tag => return (anchor, tag)

/-- The slot that the name has at this place. -/
def aliasOf (name : String) : Parser Node := do
  record 1
  match (← get).names.lookup name with
  | some slot => return .alias slot
  | none => fail .undefinedAlias

/-- A node under an anchor, whose name is known from here on. -/
def define (anchor : Option String) (body : Parser Node) : Parser Node := do
  match anchor with
  | none => body
  | some name =>
    let place := (← get).slots.length
    modify fun p => p.open name
    let node ← body
    modify fun p => { p with anchored := (place, node) :: p.anchored }
    return node

/-- Which tokens may open a node here. -/
structure Place where
  block : Bool
  /-- Entries of a sequence may stand at the indentation of the enclosing mapping. -/
  indentless : Bool

mutual

def parse : Nat → Place → Parser Node
  | 0, _ => fail .tooDeep
  | fuel + 1, place => do
    if let some (.alias name) ← peek then
      next
      return ← aliasOf name
    let (anchor, tag) ← properties 2 none none
    define anchor do
      match ← peek with
      | some .blockEntry =>
        if place.indentless then seqOf tag (← indentlessItems fuel) else absent anchor tag
      | some (.scalar text plain) => do
        next
        scalarOf tag text plain
      | some .flowSequenceStart => do
        next
        seqOf tag (← flowItems fuel true)
      | some .flowMappingStart => do
        next
        mapOf tag (← flowEntries fuel true)
      | some .blockSequenceStart =>
        if place.block then do
          next
          seqOf tag (← blockItems fuel)
        else absent anchor tag
      | some .blockMappingStart =>
        if place.block then do
          next
          mapOf tag (← blockEntries fuel)
        else absent anchor tag
      | _ => absent anchor tag

/-- Anchor or tag alone stand for an empty scalar. -/
def absent (anchor : Option String) (tag : Option Tag) : Parser Node :=
  if anchor.isSome || tag.isSome then scalarOf tag "" true else fail .nodeExpected

/-- A node, unless one of these tokens comes first. -/
def parseUnless (fuel : Nat) (ts : List Token) (place : Place) : Parser Node :=
  match fuel with
  | 0 => fail .tooDeep
  | fuel + 1 => do if ← atAny ts then nothing else parse fuel place

def blockItems : Nat → Parser (List Node)
  | 0 => fail .tooDeep
  | fuel + 1 => do
    if ← accept .blockEntry then
      let n ← parseUnless fuel [.blockEntry, .blockEnd] ⟨true, false⟩
      return n :: (← blockItems fuel)
    if ← accept .blockEnd then return []
    fail .entryExpected

def indentlessItems : Nat → Parser (List Node)
  | 0 => fail .tooDeep
  | fuel + 1 => do
    if ← accept .blockEntry then
      let n ← parseUnless fuel [.blockEntry, .key, .value, .blockEnd] ⟨true, false⟩
      return n :: (← indentlessItems fuel)
    return []

def blockEntries : Nat → Parser (List (Node × Node))
  | 0 => fail .tooDeep
  | fuel + 1 => do
    if ← accept .blockEnd then return []
    if !(← accept .key) then fail .keyExpected
    let stops := [.key, .value, .blockEnd]
    let key ← parseUnless fuel stops ⟨true, true⟩
    let value ← if ← accept .value then parseUnless fuel stops ⟨true, true⟩ else nothing
    return (key, value) :: (← blockEntries fuel)

/-- The items after an opening bracket, and the closing one. A key makes its item a mapping of one
entry. -/
def flowItems : Nat → Bool → Parser (List Node)
  | 0, _ => fail .tooDeep
  | fuel + 1, first => do
    if ← accept .flowSequenceEnd then return []
    if !first then
      if !(← accept .flowEntry) then fail .separatorExpected
      if ← accept .flowSequenceEnd then return []
    let n ← if ← accept .key then do
        let key ← if ← atAny [.value, .flowEntry, .flowSequenceEnd] then do
            next
            nothing
          else parse fuel ⟨false, false⟩
        let value ← if ← accept .value then
            parseUnless fuel [.flowEntry, .flowSequenceEnd] ⟨false, false⟩
          else nothing
        mapOf none [(key, value)]
      else parse fuel ⟨false, false⟩
    return n :: (← flowItems fuel false)

def flowEntries : Nat → Bool → Parser (List (Node × Node))
  | 0, _ => fail .tooDeep
  | fuel + 1, first => do
    if ← accept .flowMappingEnd then return []
    if !first then
      if !(← accept .flowEntry) then fail .separatorExpected
      if ← accept .flowMappingEnd then return []
    let entry ← if ← accept .key then do
        let key ← parseUnless fuel [.value, .flowEntry, .flowMappingEnd] ⟨false, false⟩
        let value ← if ← accept .value then
            parseUnless fuel [.flowEntry, .flowMappingEnd] ⟨false, false⟩
          else nothing
        pure (key, value)
      else do pure (← parse fuel ⟨false, false⟩, ← nothing)
    return entry :: (← flowEntries fuel false)

end

def standardHandles : List (String × Tag) := [("!", .ofText "!"), ("!!", .standard "")]

/-- The directives before a document: at most one version, which has to be 1.1 or 1.2, and no
handle twice. -/
def directives : Nat → Bool → List (String × Tag) → Parser (List (String × Tag))
  | 0, _, handles => return handles
  | fuel + 1, versioned, handles => do
    match ← peek with
    | some (.version major minor) =>
      if versioned ∨ major ≠ 1 ∨ (minor ≠ 1 ∧ minor ≠ 2) then fail .badDirective
      next
      directives fuel true handles
    | some (.tagDirective handle leading) =>
      if handles.any (·.1 = handle) then fail .badDirective
      next
      directives fuel versioned ((handle, leading) :: handles)
    | _ => return handles

def skipDocumentEnds : Nat → Parser Unit
  | 0 => return
  | fuel + 1 => do if ← accept .documentEnd then skipDocumentEnds fuel

/-- The root of the only document. A document after directives has to be opened by its mark. -/
def document : Parser Node := do
  let fuel := (← get).tokens.length
  if (← peek) = some .streamEnd then fail .notOneDocument
  let handles ← directives fuel false []
  let directed := !handles.isEmpty || (← get).tokens.length < fuel
  modify fun p => { p with handles := handles ++ standardHandles }
  let opened ← accept .documentStart
  if directed ∧ !opened then fail .documentStartExpected
  let stops := if opened then [.documentEnd, .documentStart, .streamEnd] else []
  let directive := match ← peek with
    | some (.version _ _) | some (.tagDirective _ _) => opened
    | _ => false
  let root ← if directive then nothing
    else parseUnless (4 * fuel + 8) stops ⟨true, false⟩
  skipDocumentEnds fuel
  if (← peek) ≠ some .streamEnd then fail .notOneDocument
  return root

end Node

def Document.ofTokens (ts : List Token) : Except Fault Document := do
  let (root, p) ← Node.document.run (.start ts)
  return ⟨root, p.contents, p.events⟩

def Document.ofText (text : String) : Except Fault Document := do ofTokens (← tokens text)

end RulePipeline.Yaml
