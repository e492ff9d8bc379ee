import RulePipeline.Yaml.Node
import RulePipeline.Yaml.Scalar

/-! The content of a YAML document. Aliases are followed on the way, and every one costs: a small
text cannot stand for a huge tree. Walking through collections is free, but their nesting is
limited, so that an alias inside of what it refers to has no content. -/
namespace RulePipeline.Yaml

/-- How many aliases may be followed in a document for each of its events. -/
def repetitions : Nat := 100

/-- Reading from a document, with the number of aliases followed so far. -/
abbrev Unfolding := ReaderT Document (StateT Nat Option)

def unfold (d : Document) (read : Unfolding α) : Option α := (·.1) <$> (read.run d).run 0

namespace Node

/-- What an alias refers to; any other node is itself. Nothing in a slot is an alias. -/
def follow : Node → Unfolding Node
  | .alias slot => do
    let d ← read
    let followed ← get
    if repetitions * d.events ≤ followed then failure
    set (followed + 1)
    match d.slots.lookup slot with
    | some n => return n
    | none => failure
  | n => return n

def namesType (tag : Option Tag) : Bool := tag.any Tag.namesType

/-- The content, nested at most so deep. A collection under a tag of the application is of a type
that is not known here. -/
def content : Nat → Node → Unfolding Content
  | 0, n => do
    match ← n.follow with
    | .scalar tag text plain => (Scalar.content? tag text plain).getDM failure
    | _ => failure
  | depth + 1, n => do
    match ← n.follow with
    | .scalar tag text plain => (Scalar.content? tag text plain).getDM failure
    | .seq tag items =>
      if namesType tag then failure
      return .seq (← items.mapM (content depth))
    | .map tag entries =>
      if namesType tag then failure
      return .map (← entries.mapM fun (key, value) => do
        return (← content depth key, ← content depth value))
    | .alias _ => failure

def maxDepth : Nat := 128

/-- The text of a scalar, whatever its tag. -/
def text (n : Node) : Unfolding String := do
  match ← n.follow with
  | .scalar _ text _ => return text
  | _ => failure

/-- A missing list may be left empty. -/
def items (n : Node) : Unfolding (List Node) := do
  match ← n.follow with
  | .seq _ items => return items
  | .scalar _ "" true => return []
  | _ => failure

end Node

end RulePipeline.Yaml
