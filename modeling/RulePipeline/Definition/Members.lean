import RulePipeline.Definition.Fault

/-! Maps read as records with known fields. Content that did not come from a JSON document may
name a field by its position. -/
namespace RulePipeline.Content

/-- The field that a key stands for, if it is one of the known ones. -/
def fieldName (names : List String) : Content → Except SchemaFault (Option String)
  | .str s => .ok (names.find? (· = s))
  | .int false n => .ok names[n]?
  | c => .error (.invalidType c "field identifier")

/-- The known fields in the order of the text. Other keys are passed over, and a field given twice
is refused. -/
def members (names : List String) :
    List (Content × α) → Except SchemaFault (List (String × α))
  | [] => .ok []
  | (key, a) :: rest => do
    let others ← members names rest
    match ← fieldName names key with
    | none => return others
    | some name =>
      if (Entries.find? name others).isSome then throw (.duplicateField name)
      return (name, a) :: others

/-- One of several names. In place of the name may stand a map of the name to nothing, and in
there also the name's position. -/
def choice (names : List String) : Content → Except SchemaFault String
  | .str s => variant s
  | .map [(.str s, .null)] => variant s
  | .map [(.int false n, .null)] =>
    match names[n]? with
    | some s => .ok s
    | none => .error (.invalidIndex (.int false n) names.length)
  | c => .error (.invalidType c "string or map")
where
  variant (s : String) : Except SchemaFault String :=
    if s ∈ names then .ok s else .error (.unknownVariant s names)

end RulePipeline.Content
