import RulePipeline.Definition.Read
import RulePipeline.Yaml.Content

/-! Definitions written in YAML. At the top level of a pipeline every scalar is taken by its text,
and a missing list may be left empty; the nodes are read by content, as in a JSON document. -/
namespace RulePipeline

namespace PipelineDef

open Yaml (Unfolding)

/-- The node behind each known name; no name may come twice. Other names are passed over, and what
is behind them is not looked at. -/
def yamlFields : List (Yaml.Node × Yaml.Node) → Unfolding (List (String × Yaml.Node))
  | [] => return []
  | (key, n) :: rest => do
    let name ← key.text
    let others ← yamlFields rest
    if name ∉ fieldNames then return others
    if (Entries.find? name others).isSome then failure
    return (name, n) :: others

/-- The content of an entry in a top-level node, whose kind is taken by its text. -/
def yamlEntry (depth : Nat) (entry : Yaml.Node × Yaml.Node) : Unfolding (Content × Content) := do
  let key ← entry.1.content depth
  if NodeDef.isTag key then return (key, .str (← entry.2.text))
  return (key, ← entry.2.content depth)

/-- A top-level node, nested at most one level deeper than this. -/
def yamlNode (depth : Nat) (n : Yaml.Node) : Unfolding NodeDef := do
  let c ← match ← n.follow with
    | .map tag entries => do
      if Yaml.Node.namesType tag then failure
      pure (Content.map (← entries.mapM (yamlEntry depth)))
    | .seq tag (kind :: items) => do
      if Yaml.Node.namesType tag then failure
      pure (Content.seq (.str (← kind.text) :: (← items.mapM (·.content depth))))
    | _ => failure
  (topNode c.reading).toOption.getDM failure

def ofYamlNode : Yaml.Node → Unfolding PipelineDef
  | .map _ entries => do
    let fields ← yamlFields entries
    let name ← match Entries.find? "name" fields with
      | some n => n.text
      | none => failure
    let description ← match Entries.find? "description" fields with
      | some n => n.text
      | none => pure ""
    let nodes ← match Entries.find? "nodes" fields with
      | some n => do (← n.items).mapM (yamlNode (Yaml.Node.maxDepth - 3))
      | none => pure []
    return { name, description, nodes }
  | _ => failure

end PipelineDef

inductive YamlError where
  | malformed (fault : Yaml.Fault)
  | schema

def YamlError.message : YamlError → String
  | .malformed f => f.message
  | .schema => "content does not fit the definition"

namespace Yaml

def readWith (read : Node → Unfolding α) (text : String) : Except YamlError α := do
  let d ← (Document.ofText text).mapError .malformed
  match unfold d (read d.root) with
  | some a => return a
  | none => throw .schema

end Yaml

def Content.ofYaml (text : String) : Except YamlError Content :=
  Yaml.readWith (·.content Yaml.Node.maxDepth) text

def PipelineDef.ofYaml (text : String) : Except YamlError PipelineDef :=
  Yaml.readWith ofYamlNode text

end RulePipeline
