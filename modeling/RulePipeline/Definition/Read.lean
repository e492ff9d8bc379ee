import RulePipeline.Definition.Term
import RulePipeline.Node

/-! Reading definitions. A node is a map tagged by its `kind`, or the list of that kind and the
fields in their declared order. Each piece of content is read once, from the inside out, as
everything that it could be; the outermost reading picks what it needs. -/
namespace RulePipeline

/-- Content and what it can be read as. -/
structure Reading where
  content : Content
  condition? : Option ConditionDef
  /-- Conditions that a combinator may list, null for a missing one. -/
  children? : Option (List (Option ConditionDef))
  node : Except SchemaFault NodeDef
  nodes : Except SchemaFault (List NodeDef)

namespace Reading

def expected (what : String) (r : Reading) : Except SchemaFault α :=
  .error (.invalidType r.content what)

def text (r : Reading) : Except SchemaFault String :=
  match r.content with
  | .str s => .ok s
  | _ => r.expected "a string"

def flag (r : Reading) : Except SchemaFault Bool :=
  match r.content with
  | .bool b => .ok b
  | _ => r.expected "a boolean"

def term (r : Reading) : Except SchemaFault TermDef := TermDef.ofContent r.content

def condition (r : Reading) : Except SchemaFault ConditionDef :=
  match r.condition? with
  | some c => .ok c
  | none => .error (.noVariant "ConditionDefinition")

/-- Null stands for nothing. -/
def optional (read : Reading → Except SchemaFault α) (r : Reading) :
    Except SchemaFault (Option α) :=
  match r.content with
  | .null => .ok none
  | _ => some <$> read r

end Reading

namespace ConditionDef

/-- The fields of a leaf, by name or by position. -/
def leafFields? (names : List String) : Content → Option (List (String × Content))
  | .map entries => (Content.members names entries).toOption
  | .seq items => if items.length = names.length then some (names.zip items) else none
  | _ => none

def compare? (c : Content) : Option ConditionDef := do
  let fields ← leafFields? ["lhs", "op", "rhs"] c
  let lhs ← TermDef.ofContent? (← Entries.find? "lhs" fields)
  let r ← match Entries.find? "op" fields with
    | some op => (Relation.ofContent op).toOption
    | none => some .unset
  let rhs ← TermDef.ofContent? (← Entries.find? "rhs" fields)
  return .compare lhs r rhs

def custom? (c : Content) : Option ConditionDef := do
  let fields ← leafFields? ["name", "lhs", "rhs"] c
  let .str name ← Entries.find? "name" fields | none
  let lhs ← TermDef.ofContent? (← Entries.find? "lhs" fields)
  let rhs ← TermDef.ofContent? (← Entries.find? "rhs" fields)
  return .custom name lhs rhs

/-- The only field that matters to a sort of condition. -/
def sole? (name : String) (entries : List (Content × Reading)) : Option Reading := do
  Entries.find? name (← (Content.members [name] entries).toOption)

/-- Of several sorts that fit, the first one in this order. -/
def ofEntries? (entries : List (Content × Reading)) : Option ConditionDef :=
  (sole? "compare" entries >>= fun r => compare? r.content)
    |>.or (sole? "and" entries >>= fun r => r.children?.map .all)
    |>.or (sole? "or" entries >>= fun r => r.children?.map .any)
    |>.or (sole? "not" entries >>= fun r => r.condition?.map .not)
    |>.or (sole? "custom" entries >>= fun r => custom? r.content)

end ConditionDef

namespace NodeDef

inductive FieldType where
  | text
  | optionalText
  | flag
  | term
  | optionalTerm
  | condition
  | optionalNodes

def FieldType.check (t : FieldType) (r : Reading) : Except SchemaFault Unit :=
  match t with
  | .text => discard r.text
  | .optionalText => discard (r.optional Reading.text)
  | .flag => discard r.flag
  | .term => discard r.term
  | .optionalTerm => discard (r.optional Reading.term)
  | .condition => discard r.condition
  | .optionalNodes => discard (r.optional Reading.nodes)

structure FieldSpec where
  name : String
  type : FieldType
  /-- May be missing at the end of a list of fields. -/
  defaulted : Bool

def fieldSpecs : NodeKind → List FieldSpec
  | .query => [⟨"data_source", .text, false⟩, ⟨"params", .optionalTerm, false⟩,
      ⟨"save_to", .text, false⟩]
  | .branch => [⟨"condition", .condition, false⟩, ⟨"on_true", .optionalNodes, false⟩,
      ⟨"on_false", .optionalNodes, false⟩, ⟨"clone_context", .flag, true⟩]
  | .ret => [⟨"value", .term, false⟩]
  | .filter => [⟨"source", .term, false⟩, ⟨"condition", .condition, false⟩,
      ⟨"exclude", .flag, true⟩, ⟨"element_name", .optionalText, false⟩, ⟨"save_to", .text, false⟩]
  | .fold => [⟨"source", .term, false⟩, ⟨"start", .optionalTerm, false⟩,
      ⟨"aggregator", .text, false⟩, ⟨"right_to_left", .flag, true⟩, ⟨"save_to", .text, false⟩]
  | .stop => []

abbrev Fields := List (String × Reading)

/-- The first field, in the order of the text, that is not of its type. -/
def checkFields (specs : List FieldSpec) : Fields → Except SchemaFault Unit
  | [] => .ok ()
  | (name, r) :: rest => do
    match specs.find? (·.name = name) with
    | some spec => spec.type.check r
    | none => pure ()
    checkFields specs rest

def required (read : Reading → Except SchemaFault α) (fields : Fields) (name : String) :
    Except SchemaFault α :=
  match Entries.find? name fields with
  | some r => read r
  | none => .error (.missingField name)

def optional (read : Reading → Except SchemaFault α) (fields : Fields) (name : String) :
    Except SchemaFault (Option α) :=
  match Entries.find? name fields with
  | some r => r.optional read
  | none => .ok none

def flag (fields : Fields) (name : String) : Except SchemaFault Bool :=
  match Entries.find? name fields with
  | some r => r.flag
  | none => .ok false

/-- Missing fields are found in their declared order. -/
def build (fields : Fields) : NodeKind → Except SchemaFault NodeDef
  | .query => do
    let source ← required Reading.text fields "data_source"
    let params ← optional Reading.term fields "params"
    let saveTo ← required Reading.text fields "save_to"
    return .query source params saveTo
  | .branch => do
    let condition ← required Reading.condition fields "condition"
    let onTrue ← optional Reading.nodes fields "on_true"
    let onFalse ← optional Reading.nodes fields "on_false"
    let isolated ← flag fields "clone_context"
    return .branch condition onTrue onFalse isolated
  | .ret => do return .ret (← required Reading.term fields "value")
  | .filter => do
    let source ← required Reading.term fields "source"
    let condition ← required Reading.condition fields "condition"
    let exclude ← flag fields "exclude"
    let elementName ← optional Reading.text fields "element_name"
    let saveTo ← required Reading.text fields "save_to"
    return .filter source condition exclude elementName saveTo
  | .fold => do
    let source ← required Reading.term fields "source"
    let start ← optional Reading.term fields "start"
    let aggregator ← required Reading.text fields "aggregator"
    let rightToLeft ← flag fields "right_to_left"
    let saveTo ← required Reading.text fields "save_to"
    return .fold source start aggregator rightToLeft saveTo
  | .stop => return .stop

def elements (n : Nat) : String := toString n ++ (if n = 1 then " element" else " elements")

/-- How a list of a node's fields is described. -/
def listForm (kind : NodeKind) : String :=
  "struct variant NodeDefinition::" ++ kind.text.capitalize ++ " with " ++
    elements (fieldSpecs kind).length

/-- The position of the first field that a list of this many lacks. -/
def firstLacking (count : Nat) (specs : List FieldSpec) : Option Nat :=
  ((specs.drop count).findIdx? (!·.defaulted)).map (· + count)

def ofList (kind : NodeKind) (items : List Reading) : Except SchemaFault NodeDef := do
  let specs := fieldSpecs kind
  let fields : Fields := (specs.map (·.name)).zip items
  checkFields specs fields
  if let some i := firstLacking items.length specs then
    throw (.invalidLength i (listForm kind))
  if items.length > specs.length then
    throw (.invalidLength items.length (elements specs.length ++ " in sequence"))
  build fields kind

def ofEntries (kind : NodeKind) (entries : List (Content × Reading)) :
    Except SchemaFault NodeDef := do
  if kind = .stop then return .stop
  let specs := fieldSpecs kind
  let fields ← Content.members (specs.map (·.name)) entries
  checkFields specs fields
  build fields kind

/-- A kind by its name, or by its position. -/
def kindOf : Content → Except SchemaFault NodeKind
  | .str s =>
    match NodeKind.all.find? (·.text = s) with
    | some k => .ok k
    | none => .error (.unknownVariant s (NodeKind.all.map NodeKind.text))
  | .int false n =>
    match NodeKind.all[n]? with
    | some k => .ok k
    | none => .error (.invalidIndex (.int false n) NodeKind.all.length)
  | c => .error (.invalidType c "variant identifier")

def isTag : Content → Bool
  | .str s => s = "kind"
  | _ => false

def ofTagged (entries : List (Content × Reading)) : Except SchemaFault NodeDef := do
  match entries.filter (isTag ·.1) with
  | [] => throw (.missingField "kind")
  | [(_, tag)] => ofEntries (← kindOf tag.content) (entries.filter (!isTag ·.1))
  | _ => throw (.duplicateField "kind")

def ofItems : List Reading → Except SchemaFault NodeDef
  | [] => .error (.missingField "kind")
  | tag :: items => do ofList (← kindOf tag.content) items

end NodeDef

namespace Reading

def noNode (c : Content) : Except SchemaFault NodeDef :=
  .error (.invalidType c "internally tagged enum NodeDefinition")

def noNodes (c : Content) : Except SchemaFault (List NodeDef) :=
  .error (.invalidType c "a sequence")

def ofScalar (c : Content) : Reading := ⟨c, none, none, noNode c, noNodes c⟩

def child (r : Reading) : Option (Option ConditionDef) :=
  match r.content with
  | .null => some none
  | _ => r.condition?.map some

def ofSeq (c : Content) (items : List Reading) : Reading :=
  ⟨c, none, items.mapM child, NodeDef.ofItems items, items.mapM (·.node)⟩

def ofMap (c : Content) (entries : List (Content × Reading)) : Reading :=
  ⟨c, ConditionDef.ofEntries? entries, none, NodeDef.ofTagged entries, noNodes c⟩

end Reading

namespace Content

mutual

def reading : Content → Reading
  | .seq items => Reading.ofSeq (.seq items) (readings items)
  | .map entries => Reading.ofMap (.map entries) (entryReadings entries)
  | c => Reading.ofScalar c

def readings : List Content → List Reading
  | [] => []
  | c :: rest => c.reading :: readings rest

def entryReadings : List (Content × Content) → List (Content × Reading)
  | [] => []
  | (key, c) :: rest => (key, c.reading) :: entryReadings rest

end

end Content

def ConditionDef.ofContent (c : Content) : Except SchemaFault ConditionDef := c.reading.condition

namespace PipelineDef

/-- The kind of a top-level node has to be given by name. -/
def topNode (r : Reading) : Except SchemaFault NodeDef :=
  let tag : Option Content := match r.content with
    | .map entries => (entries.find? fun e => NodeDef.isTag e.1).map Prod.snd
    | .seq items => items.head?
    | _ => none
  match tag with
  | some (.int neg mag) => .error (.invalidType (.int neg mag) "variant identifier")
  | _ => r.node

def topNodes (r : Reading) : Except SchemaFault (List NodeDef) :=
  match r.content with
  | .seq items => (Content.readings items).mapM topNode
  | _ => r.expected "a sequence"

def fieldNames : List String := ["name", "description", "nodes"]

def checkField (name : String) (r : Reading) : Except SchemaFault Unit :=
  if name = "nodes" then discard (topNodes r) else discard r.text

def checkFields (fields : NodeDef.Fields) : Except SchemaFault Unit :=
  fields.forM fun (name, r) => checkField name r

/-- Everything but the name may be missing. -/
def build (fields : NodeDef.Fields) : Except SchemaFault PipelineDef := do
  let name ← NodeDef.required Reading.text fields "name"
  let description ← match Entries.find? "description" fields with
    | some r => r.text
    | none => pure ""
  let nodes ← match Entries.find? "nodes" fields with
    | some r => topNodes r
    | none => pure []
  return { name, description, nodes }

def ofContent (c : Content) : Except SchemaFault PipelineDef :=
  match c with
  | .map entries => do
    let fields ← Content.members fieldNames (Content.entryReadings entries)
    checkFields fields
    build fields
  | .seq items => do
    let fields := fieldNames.zip (Content.readings items)
    checkFields fields
    if items.isEmpty then
      throw (.invalidLength 0 ("struct PipelineDefinition with " ++ NodeDef.elements 3))
    if items.length > fieldNames.length then
      throw (.invalidLength items.length "fewer elements in array")
    build fields
  | c => .error (.invalidType c "struct PipelineDefinition")

def ofJson (j : Json) : Except SchemaFault PipelineDef := ofContent (.ofJson j)

end PipelineDef

end RulePipeline
