import RulePipeline.Definition.Basic
import RulePipeline.Definition.Members

/-! Reading terms and the names in them. A map with a `literal` that can be read is a literal;
otherwise it may be a context read. -/
namespace RulePipeline

def Kind.ofContent (c : Content) : Except SchemaFault Kind := do
  let name ← c.choice (Kind.all.map Kind.text)
  match Kind.ofText? name with
  | some k => return k
  | none => throw (.unknownVariant name [])

def GetterDef.ofContent? (c : Content) : Option GetterDef := do
  let name ← (c.choice (GetterDef.all.map GetterDef.text)).toOption
  GetterDef.all.find? (·.text = name)

namespace Relation

def allSpellings : List String := all.flatMap spellings

/-- The position of a relation counts the relations, not their spellings. -/
def ofContent : Content → Except SchemaFault Relation
  | .map [(.int false n, .null)] =>
    match all[n]? with
    | some r => .ok r
    | none => .error (.invalidIndex (.int false n) all.length)
  | c => do
    let name ← c.choice allSpellings
    match ofSpelling? name with
    | some r => return r
    | none => throw (.unknownVariant name allSpellings)

end Relation

namespace TermDef

/-- A field that is absent or null is none; any other has to be readable. -/
def optionalField (read : Content → Option α) (name : String) (fields : List (String × Content)) :
    Option (Option α) :=
  match Entries.find? name fields with
  | none | some .null => some none
  | some c => (read c).map some

def literal? (entries : List (Content × Content)) : Option TermDef := do
  let fields ← (Content.members ["literal", "type"] entries).toOption
  let json ← (← Entries.find? "literal" fields).toJson?
  let kind ← optionalField (fun c => (Kind.ofContent c).toOption) "type" fields
  return .literal json kind

def context? (entries : List (Content × Content)) : Option TermDef := do
  let fields ← (Content.members ["context", "getter", "key", "value"] entries).toOption
  let .str name ← Entries.find? "context" fields | none
  let getter ← optionalField GetterDef.ofContent? "getter" fields
  let key ← optionalField Content.toJson? "key" fields
  let value ← optionalField Content.toJson? "value" fields
  return .context name getter key value

def ofContent? : Content → Option TermDef
  | .map entries => (literal? entries).or (context? entries)
  | _ => none

def ofContent (c : Content) : Except SchemaFault TermDef :=
  match ofContent? c with
  | some t => .ok t
  | none => .error (.noVariant "ValueDefinition")

end TermDef

end RulePipeline
