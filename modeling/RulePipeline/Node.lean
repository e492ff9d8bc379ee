import RulePipeline.Condition

/-! Pipelines are lists of nodes. A branch holds the pipelines of its two sides, so that a
pipeline is a tree. -/
namespace RulePipeline

/-- Asks a data source and saves its response. -/
structure Query where
  source : String
  params : Term
  saveTo : String

/-- Keeps the elements of a list or a map for which the condition holds, or with `exclude` those
for which it does not. The condition sees the element under `elementName`. -/
structure Filter where
  source : Term
  condition : Condition
  exclude : Bool
  elementName : String
  saveTo : String

/-- Folds a list with an aggregator. -/
structure Fold where
  source : Term
  start : Term
  aggregator : String
  rightToLeft : Bool
  saveTo : String

inductive Node where
  | query (q : Query)
  | branch (condition : Condition) (onTrue onFalse : Option (List Node)) (isolated : Bool)
  | ret (value : Term)
  | filter (f : Filter)
  | fold (f : Fold)
  | stop

abbrev Pipeline := List Node

/-- The name under which a filter's condition sees the element, unless it is given another. -/
def Filter.defaultElementName : String := "element"

inductive NodeKind where
  | query
  | branch
  | ret
  | filter
  | fold
  | stop
  deriving DecidableEq

namespace NodeKind

def all : List NodeKind := [.query, .branch, .ret, .filter, .fold, .stop]

def text : NodeKind → String
  | .query => "query"
  | .branch => "branch"
  | .ret => "return"
  | .filter => "filter"
  | .fold => "fold"
  | .stop => "stop"

end NodeKind

def Node.kind : Node → NodeKind
  | .query _ => .query
  | .branch _ _ _ _ => .branch
  | .ret _ => .ret
  | .filter _ => .filter
  | .fold _ => .fold
  | .stop => .stop

end RulePipeline
