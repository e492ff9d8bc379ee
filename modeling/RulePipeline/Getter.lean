import RulePipeline.Value.Basic

/-! Getters take a part out of a value. `step` goes one level down, by list index, map name or
field name; `path` goes down once for each element of a list; `constant` looks at nothing. A host
can bring getters of its own, which may do anything with the input and the key. -/
namespace RulePipeline

inductive GetterError where
  | valueNotFound
  | keyTypeInvalid
  | inputNotProjectable
  | inputIsNil
  | keyIsEmpty
  | fieldIsHidden
  deriving DecidableEq

def GetterError.message : GetterError → String
  | .valueNotFound => "no value exists for the given key"
  | .keyTypeInvalid => "key type is not valid for this input"
  | .inputNotProjectable => "values cannot be extracted from this input"
  | .inputIsNil => "input is nil"
  | .keyIsEmpty => "key is empty or nil"
  | .fieldIsHidden => "field is unexported"

inductive Getter where
  | step
  | path
  | constant (value : Value)
  | host (take : Value → Option Value → Except GetterError Value)

namespace Getter

/-- A missing key and one that resolves to nil are alike. -/
def requireKey : Option Value → Except GetterError Value
  | some key => if key.resolved.isNil then .error .keyIsEmpty else .ok key
  | none => .error .keyIsEmpty

/-- An integer of any kind; a negative one is the index of nothing. -/
def indexKey (key : Value) : Except GetterError Nat :=
  match key.resolved.numeric? with
  | some (.signed n) => if n < 0 then .error .valueNotFound else .ok n.toNat
  | some (.unsigned n) => .ok n
  | _ => .error .keyTypeInvalid

def nameKey (key : Value) : Except GetterError String :=
  match key.string? with
  | some name => .ok name
  | none => .error .keyTypeInvalid

def found (value : Option Value) : Except GetterError Value :=
  match value with
  | some v => .ok v
  | none => .error .valueNotFound

/-- One level down. A scalar has no parts and stands for itself, whatever the key. -/
def project : Value → Value → Except GetterError Value
  | .nil, _ => .error .inputIsNil
  | .list items, key => do found items[(← indexKey key)]?
  | .map entries, key => do found (Entries.find? (← nameKey key) entries)
  | .record _ fields, key => do
    let name ← nameKey key
    match fields.find? (·.name = name) with
    | none => .error .valueNotFound
    | some f => if f.exported then .ok f.value else .error .fieldIsHidden
  | .ref target, key => project target key
  | .host _, _ => .error .inputNotProjectable
  | v, _ => .ok v

/-- The steps of a key: a list is a path, and any other key a path of one step. -/
def steps (key : Value) : List Value := key.list?.getD [key]

def walk : List Value → Value → Except GetterError Value
  | [], v => .ok v
  | key :: rest, v => do walk rest (← project v (← requireKey (some key)))

def get (g : Getter) (input : Value) (key : Option Value) : Except GetterError Value :=
  match g with
  | .constant v => .ok v
  | .host take => take input key
  | .step => do
    if input.isNil then throw .inputIsNil
    project input (← requireKey key)
  | .path => do
    if input.isNil then throw .inputIsNil
    let path := steps (← requireKey key)
    if path.isEmpty then throw .keyIsEmpty
    walk path input

end Getter

end RulePipeline
