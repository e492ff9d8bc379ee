import RulePipeline.Yaml.Tag

/-! The tokens of a YAML text, and what can be wrong with one. -/
namespace RulePipeline.Yaml

inductive Token where
  | streamEnd
  | version (major minor : Nat)
  | tagDirective (handle : String) (leading : Tag)
  | documentStart
  | documentEnd
  | blockSequenceStart
  | blockMappingStart
  | blockEnd
  | flowSequenceStart
  | flowSequenceEnd
  | flowMappingStart
  | flowMappingEnd
  | blockEntry
  | flowEntry
  | key
  | value
  | alias (name : String)
  | anchor (name : String)
  | tag (handle : String) (suffix : Tag)
  | scalar (text : String) (plain : Bool)
  deriving DecidableEq

inductive Fault where
  | controlCharacter
  | tabIndent
  | unexpectedEnd
  | documentInQuotes
  | badEscape
  | badCharacter
  | colonExpected
  | colonUnexpected
  | entryNotAllowed
  | keyNotAllowed
  | valueNotAllowed
  | badDirective
  | badAnchor
  | badTag
  | badBlockHeader
  | nodeExpected
  | entryExpected
  | keyExpected
  | separatorExpected
  | documentStartExpected
  | undefinedTagHandle
  | undefinedAlias
  | notOneDocument
  | tooDeep
  deriving DecidableEq

def Fault.message : Fault → String
  | .controlCharacter => "control characters are not allowed"
  | .tabIndent => "found a tab character that violates indentation"
  | .unexpectedEnd => "found unexpected end of stream"
  | .documentInQuotes => "found unexpected document indicator"
  | .badEscape => "found unknown escape character"
  | .badCharacter => "found character that cannot start any token"
  | .colonExpected => "could not find expected ':'"
  | .colonUnexpected => "found unexpected ':'"
  | .entryNotAllowed => "block sequence entries are not allowed in this context"
  | .keyNotAllowed => "mapping keys are not allowed in this context"
  | .valueNotAllowed => "mapping values are not allowed in this context"
  | .badDirective => "did not find a well-formed directive"
  | .badAnchor => "did not find expected alphabetic or numeric character"
  | .badTag => "did not find expected tag"
  | .badBlockHeader => "did not find expected comment or line break"
  | .nodeExpected => "did not find expected node content"
  | .entryExpected => "did not find expected '-' indicator"
  | .keyExpected => "did not find expected key"
  | .separatorExpected => "did not find expected ',' or closing bracket"
  | .documentStartExpected => "did not find expected <document start>"
  | .undefinedTagHandle => "found undefined tag handle"
  | .undefinedAlias => "unknown anchor"
  | .notOneDocument => "expected a single document"
  | .tooDeep => "recursion limit exceeded"

end RulePipeline.Yaml
