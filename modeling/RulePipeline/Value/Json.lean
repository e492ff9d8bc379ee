import RulePipeline.Json.Basic
import RulePipeline.Value.Basic

/-! Values as JSON documents and back. Every document has a value; a value keeps in JSON what
JSON can express, without hidden fields, references, host objects and infinities. -/
namespace RulePipeline.Value

/-- An integer of any kind is a JSON number. -/
def jsonInt (n : FixedInt) : Json := (Json.int? n.val).getD .null

mutual

def toJson : Value → Json
  | .nil => .null
  | .bool b => .bool b
  | .int n => jsonInt n
  | .f32 x => .ofFloat (x.cast .double)
  | .f64 x => .ofFloat x
  | .string s => .str s
  | .list items => .arr (toJsonItems items)
  | .map entries => .obj (toJsonEntries entries)
  | .record _ fields => .obj (Entries.ofList (toJsonFields fields))
  | .ref target => target.toJson
  | .host _ => .null

def toJsonItems : List Value → List Json
  | [] => []
  | v :: rest => v.toJson :: toJsonItems rest

def toJsonEntries : List (String × Value) → List (String × Json)
  | [] => []
  | (name, v) :: rest => (name, v.toJson) :: toJsonEntries rest

def toJsonFields : List (Field Value) → List (String × Json)
  | [] => []
  | ⟨name, v, exported⟩ :: rest =>
    if exported then (name, v.toJson) :: toJsonFields rest else toJsonFields rest

end

/-- An integer is signed where it can be. -/
def ofNumber : Json.Number → Value
  | .int n _ => ((ofInt? .i64 n).or (ofInt? .u64 n)).getD .nil
  | .float x _ => .f64 x

mutual

def ofJson : Json → Value
  | .null => .nil
  | .bool b => .bool b
  | .num n => ofNumber n
  | .str s => .string s
  | .arr items => .list (ofJsonItems items)
  | .obj members => .map (ofJsonMembers members)

def ofJsonItems : List Json → List Value
  | [] => []
  | j :: rest => ofJson j :: ofJsonItems rest

def ofJsonMembers : List (String × Json) → List (String × Value)
  | [] => []
  | (name, j) :: rest => (name, ofJson j) :: ofJsonMembers rest

end

end RulePipeline.Value
