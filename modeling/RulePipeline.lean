import RulePipeline.Definition.Json
import RulePipeline.Definition.Read
import RulePipeline.Failure
import RulePipeline.FileTree
import RulePipeline.Json.Reader
import RulePipeline.Json.Writer
import RulePipeline.Main
import RulePipeline.Proofs.Binary.Exact
import RulePipeline.Proofs.Binary.Rounding
import RulePipeline.Proofs.Condition.NormalForm
import RulePipeline.Proofs.Content
import RulePipeline.Proofs.Definition.Acceptance
import RulePipeline.Proofs.Definition.Compiled
import RulePipeline.Proofs.Definition.Completeness
import RulePipeline.Proofs.Definition.Constant
import RulePipeline.Proofs.Definition.Fields
import RulePipeline.Proofs.Definition.Format
import RulePipeline.Proofs.Definition.Literal
import RulePipeline.Proofs.Definition.Meaning
import RulePipeline.Proofs.Definition.Plain
import RulePipeline.Proofs.Definition.Preservation
import RulePipeline.Proofs.Definition.RoundTrip
import RulePipeline.Proofs.Definition.Sites
import RulePipeline.Proofs.Definition.TypedLiteral
import RulePipeline.Proofs.Definition.Written
import RulePipeline.Proofs.Except
import RulePipeline.Proofs.Getter.Path
import RulePipeline.Proofs.Getter.Reference
import RulePipeline.Proofs.Relation.Equality
import RulePipeline.Proofs.Relation.Exchange
import RulePipeline.Proofs.Relation.Integers
import RulePipeline.Proofs.Relation.Negation
import RulePipeline.Proofs.Relation.Numbers
import RulePipeline.Proofs.Relation.Order
import RulePipeline.Proofs.Run.Accumulation
import RulePipeline.Proofs.Run.Arrival
import RulePipeline.Proofs.Run.Attribution
import RulePipeline.Proofs.Run.CallOrder
import RulePipeline.Proofs.Run.Cancellation
import RulePipeline.Proofs.Run.Effects
import RulePipeline.Proofs.Run.Extremes
import RulePipeline.Proofs.Run.FailedContext
import RulePipeline.Proofs.Run.Failing
import RulePipeline.Proofs.Run.Footprint
import RulePipeline.Proofs.Run.Fusion
import RulePipeline.Proofs.Run.Inlining
import RulePipeline.Proofs.Run.Isolation
import RulePipeline.Proofs.Run.Selection
import RulePipeline.Proofs.Run.Sequence
import RulePipeline.Proofs.Run.Summation
import RulePipeline.Proofs.Run.Visits
import RulePipeline.Proofs.SortedMap
import RulePipeline.Proofs.Value.Conversion
import RulePipeline.Proofs.Value.Equality
import RulePipeline.Proofs.Value.FloatConversion
import RulePipeline.Proofs.Value.HiddenFields
import RulePipeline.Proofs.Value.Record
import RulePipeline.Proofs.Value.RoundTrip
import RulePipeline.Proofs.Yaml.Finite
import RulePipeline.Run
import RulePipeline.Value.Record
import RulePipeline.Yaml.Definition
