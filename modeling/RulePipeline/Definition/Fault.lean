import RulePipeline.Content
import RulePipeline.Json.Writer
import RulePipeline.Text.Quoted

/-! What keeps content from being read as a definition. -/
namespace RulePipeline

inductive SchemaFault where
  | missingField (name : String)
  | duplicateField (name : String)
  | invalidType (found : Content) (expected : String)
  | invalidIndex (found : Content) (count : Nat)
  | unknownVariant (found : String) (expected : List String)
  | invalidLength (found : Nat) (expected : String)
  | noVariant (type : String)

/-- What sort of content this is, with the content where it is short. -/
def Content.describe : Content → String
  | .null => "null"
  | .bool b => "boolean `" ++ (if b then "true" else "false") ++ "`"
  | .int neg mag => "integer `" ++ toString (intValue neg mag) ++ "`"
  | .float x => "floating point `" ++ Json.floatText x ++ "`"
  | .str s => "string " ++ Text.quoted s
  | .seq _ => "sequence"
  | .map _ => "map"

namespace SchemaFault

def ticked (name : String) : String := "`" ++ name ++ "`"

def oneOf : List String → String
  | [a] => ticked a
  | [a, b] => ticked a ++ " or " ++ ticked b
  | names => "one of " ++ String.intercalate ", " (names.map ticked)

def message : SchemaFault → String
  | .missingField name => "missing field " ++ ticked name
  | .duplicateField name => "duplicate field " ++ ticked name
  | .invalidType found expected => "invalid type: " ++ found.describe ++ ", expected " ++ expected
  | .invalidIndex found count =>
    "invalid value: " ++ found.describe ++ ", expected variant index 0 <= i < " ++ toString count
  | .unknownVariant found expected =>
    "unknown variant " ++ ticked found ++ ", expected " ++ oneOf expected
  | .invalidLength found expected =>
    "invalid length " ++ toString found ++ ", expected " ++ expected
  | .noVariant type => "data did not match any variant of untagged enum " ++ type

end SchemaFault

end RulePipeline
