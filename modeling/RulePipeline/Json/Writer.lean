import RulePipeline.Json.Basic
import RulePipeline.Decimal.Shortest

/-! The text of a JSON document, on one line or indented by two spaces a level. -/
namespace RulePipeline.Json

/-- Exponents from -5 to 15 are written out. -/
def layout : Decimal.Layout := ⟨-5, 15⟩

def floatText : Binary64 → String
  | .nan => "null"
  | .num neg mag => (if neg then "-" else "") ++ (Decimal.shortest .double mag).render layout

def Number.text : Number → String
  | .int n _ => toString n
  | .float x _ => floatText x

/-- Quotes, backslashes and control characters are escaped, and nothing else. -/
def escape (c : Char) : List Char :=
  match c with
  | '"' => ['\\', '"']
  | '\\' => ['\\', '\\']
  | '\n' => ['\\', 'n']
  | '\r' => ['\\', 'r']
  | '\t' => ['\\', 't']
  | '\x08' => ['\\', 'b']
  | '\x0c' => ['\\', 'f']
  | c =>
    if c.toNat < 32 then
      ['\\', 'u', '0', '0', Nat.digitChar (c.toNat / 16), Nat.digitChar (c.toNat % 16)]
    else [c]

def quote (s : String) : String :=
  "\"" ++ String.ofList (s.toList.flatMap escape) ++ "\""

def braces (body : String) : String := "\x7b" ++ body ++ "\x7d"

mutual

def compact : Json → String
  | .null => "null"
  | .bool b => if b then "true" else "false"
  | .num n => n.text
  | .str s => quote s
  | .arr items => "[" ++ String.intercalate "," (compactItems items) ++ "]"
  | .obj members => braces (String.intercalate "," (compactMembers members))

def compactItems : List Json → List String
  | [] => []
  | j :: rest => j.compact :: compactItems rest

def compactMembers : List (String × Json) → List String
  | [] => []
  | (name, j) :: rest => (quote name ++ ":" ++ j.compact) :: compactMembers rest

end

def newline (level : Nat) : String := "\n" ++ String.ofList (List.replicate (2 * level) ' ')

/-- The parts on lines of their own, one level deeper than the brackets around them. -/
def block (level : Nat) (parts : List String) : String :=
  if parts.isEmpty then ""
  else newline (level + 1) ++ String.intercalate ("," ++ newline (level + 1)) parts ++ newline level

mutual

def prettyAt (level : Nat) : Json → String
  | .arr items => "[" ++ block level (prettyItems (level + 1) items) ++ "]"
  | .obj members => braces (block level (prettyMembers (level + 1) members))
  | j => j.compact

def prettyItems (level : Nat) : List Json → List String
  | [] => []
  | j :: rest => j.prettyAt level :: prettyItems level rest

def prettyMembers (level : Nat) : List (String × Json) → List String
  | [] => []
  | (name, j) :: rest => (quote name ++ ": " ++ j.prettyAt level) :: prettyMembers level rest

end

def pretty (j : Json) : String := j.prettyAt 0

end RulePipeline.Json
