import RulePipeline.Definition.Basic
import RulePipeline.Node

/-! Definitions as JSON documents, with defaults filled in. What a node may lack is written as
null; what a term may lack is left out. -/
namespace RulePipeline

/-- A member that is left out where there is nothing to write. -/
def optionalMember (name : String) : Option Json → List (String × Json)
  | some j => [(name, j)]
  | none => []

def TermDef.toJson : TermDef → Json
  | .literal json kind =>
    .obj (("literal", json) :: optionalMember "type" (kind.map fun k => .str k.text))
  | .context name getter key value =>
    .obj (("context", .str name) ::
      (optionalMember "getter" (getter.map fun g => .str g.text) ++
        optionalMember "key" key ++ optionalMember "value" value))

namespace ConditionDef

mutual

def toJson : ConditionDef → Json
  | .compare lhs r rhs =>
    .obj [("compare", .obj [("lhs", lhs.toJson), ("op", .str r.name), ("rhs", rhs.toJson)])]
  | .all children => .obj [("and", .arr (toJsonChildren children))]
  | .any children => .obj [("or", .arr (toJsonChildren children))]
  | .not child => .obj [("not", child.toJson)]
  | .custom name lhs rhs =>
    .obj [("custom", .obj [("lhs", lhs.toJson), ("name", .str name), ("rhs", rhs.toJson)])]

def toJsonChildren : List (Option ConditionDef) → List Json
  | [] => []
  | some c :: rest => c.toJson :: toJsonChildren rest
  | none :: rest => .null :: toJsonChildren rest

end

end ConditionDef

namespace NodeDef

def kind : NodeDef → NodeKind
  | .query _ _ _ => .query
  | .branch _ _ _ _ => .branch
  | .ret _ => .ret
  | .filter _ _ _ _ _ => .filter
  | .fold _ _ _ _ _ => .fold
  | .stop => .stop

def optionalTerm : Option TermDef → Json
  | some t => t.toJson
  | none => .null

mutual

def toJson : NodeDef → Json
  | .query source params saveTo =>
    .obj [("data_source", .str source), ("kind", .str NodeKind.query.text),
      ("params", optionalTerm params), ("save_to", .str saveTo)]
  | .branch condition onTrue onFalse isolated =>
    .obj [("clone_context", .bool isolated), ("condition", condition.toJson),
      ("kind", .str NodeKind.branch.text), ("on_false", toJsonSide onFalse),
      ("on_true", toJsonSide onTrue)]
  | .ret value => .obj [("kind", .str NodeKind.ret.text), ("value", value.toJson)]
  | .filter source condition exclude elementName saveTo =>
    .obj [("condition", condition.toJson), ("element_name", (elementName.map Json.str).getD .null),
      ("exclude", .bool exclude), ("kind", .str NodeKind.filter.text), ("save_to", .str saveTo),
      ("source", source.toJson)]
  | .fold source start aggregator rightToLeft saveTo =>
    .obj [("aggregator", .str aggregator), ("kind", .str NodeKind.fold.text),
      ("right_to_left", .bool rightToLeft), ("save_to", .str saveTo), ("source", source.toJson),
      ("start", optionalTerm start)]
  | .stop => .obj [("kind", .str NodeKind.stop.text)]

def toJsonSide : Option (List NodeDef) → Json
  | some nodes => .arr (toJsonNodes nodes)
  | none => .null

def toJsonNodes : List NodeDef → List Json
  | [] => []
  | n :: rest => n.toJson :: toJsonNodes rest

end

end NodeDef

def PipelineDef.toJson (d : PipelineDef) : Json :=
  .obj [("description", .str d.description), ("name", .str d.name),
    ("nodes", .arr (NodeDef.toJsonNodes d.nodes))]

end RulePipeline
