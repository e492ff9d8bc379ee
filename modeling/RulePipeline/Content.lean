import RulePipeline.Json.Basic

/-! Untyped structured data, from which definitions are read whatever text they came in. Unlike
a JSON document it has infinities, and maps with keys of any sort in the order of the text. -/
namespace RulePipeline

inductive Content where
  | null
  | bool (b : Bool)
  /-- The sign stays with a zero, which is then no position in a list of names. -/
  | int (neg : Bool) (mag : Nat)
  | float (x : Binary64)
  | str (s : String)
  | seq (items : List Content)
  | map (entries : List (Content × Content))

namespace Content

def intValue (neg : Bool) (mag : Nat) : Int := if neg then -(mag : Int) else mag

mutual

def ofJson : Json → Content
  | .null => .null
  | .bool b => .bool b
  | .num (.int n _) => .int (n < 0) n.natAbs
  | .num (.float x _) => .float x
  | .str s => .str s
  | .arr items => .seq (ofJsonItems items)
  | .obj members => .map (ofJsonMembers members)

def ofJsonItems : List Json → List Content
  | [] => []
  | j :: rest => ofJson j :: ofJsonItems rest

def ofJsonMembers : List (String × Json) → List (Content × Content)
  | [] => []
  | (name, j) :: rest => (.str name, ofJson j) :: ofJsonMembers rest

end

mutual

/-- A JSON document, where every key is a string and every integer fits 64 bits. -/
def toJson? : Content → Option Json
  | .null => some .null
  | .bool b => some (.bool b)
  | .int neg mag => Json.int? (intValue neg mag)
  | .float x => some (.ofFloat x)
  | .str s => some (.str s)
  | .seq items => do return .arr (← toJsonItems? items)
  | .map entries => do return .obj (Entries.ofList (← toJsonMembers? entries))

def toJsonItems? : List Content → Option (List Json)
  | [] => some []
  | c :: rest => do return (← c.toJson?) :: (← toJsonItems? rest)

def toJsonMembers? : List (Content × Content) → Option (List (String × Json))
  | [] => some []
  | (.str name, c) :: rest => do return (name, ← c.toJson?) :: (← toJsonMembers? rest)
  | _ :: _ => none

end

end Content

end RulePipeline
