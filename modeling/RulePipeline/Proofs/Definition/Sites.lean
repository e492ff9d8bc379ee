import RulePipeline.Definition.Basic

/-! The sites of a definition: the relations, names of comparisons, terms and missing children at
any depth, on both sides of every branch. They are listed in the order in which a definition is
gone through to compile it. -/
namespace RulePipeline

inductive Site where
  | relation (r : Relation)
  | comparison (name : String)
  | term (t : TermDef)
  /-- A child of a combinator that is missing. -/
  | gap (index : Nat)

namespace ConditionDef

mutual

def sites : ConditionDef → List Site
  | .compare lhs r rhs => [.relation r, .term lhs, .term rhs]
  | .all children => childSites 0 children
  | .any children => childSites 0 children
  | .not child => child.sites
  | .custom name lhs rhs => [.comparison name, .term lhs, .term rhs]

def childSites (index : Nat) : List (Option ConditionDef) → List Site
  | [] => []
  | none :: rest => .gap index :: childSites (index + 1) rest
  | some c :: rest => c.sites ++ childSites (index + 1) rest

end

end ConditionDef

namespace NodeDef

def termSites : Option TermDef → List Site
  | some t => [.term t]
  | none => []

mutual

def sites : NodeDef → List Site
  | .query _ params _ => termSites params
  | .branch condition onTrue onFalse _ =>
    condition.sites ++ (sideSites onTrue ++ sideSites onFalse)
  | .ret value => [.term value]
  | .filter source condition _ _ _ => .term source :: condition.sites
  | .fold source start _ _ _ => termSites start ++ [.term source]
  | .stop => []

def sideSites : Option (List NodeDef) → List Site
  | none => []
  | some nodes => levelSites nodes

def levelSites : List NodeDef → List Site
  | [] => []
  | n :: rest => n.sites ++ levelSites rest

end

end NodeDef

def PipelineDef.sites (d : PipelineDef) : List Site := NodeDef.levelSites d.nodes

end RulePipeline
