import RulePipeline.Value.Basic

/-! Records: named fields in the order of their first use. -/
namespace RulePipeline

structure Record where
  typeName : String
  fields : List (Field Value)

namespace Record

def empty (typeName : String) : Record := ⟨typeName, []⟩

/-- A field whose name is already in use takes the old one's place. -/
def insertField (f : Field Value) : List (Field Value) → List (Field Value)
  | [] => [f]
  | g :: rest => if g.name = f.name then f :: rest else g :: insertField f rest

def insert (r : Record) (f : Field Value) : Record := ⟨r.typeName, insertField f r.fields⟩

def withField (r : Record) (name : String) (value : Value) : Record :=
  r.insert ⟨name, value, true⟩

def withHiddenField (r : Record) (name : String) (value : Value) : Record :=
  r.insert ⟨name, value, false⟩

def field? (r : Record) (name : String) : Option (Field Value) :=
  r.fields.find? fun f => f.name = name

def toValue (r : Record) : Value := .record r.typeName r.fields

end Record

end RulePipeline
