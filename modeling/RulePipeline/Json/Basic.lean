import RulePipeline.Binary.Basic
import RulePipeline.Entries

/-! JSON documents. A number is an integer of at most 64 bits, signed or unsigned, or a finite
double; an object lists its members by ascending name. -/
namespace RulePipeline

attribute [local instance (high)] instPowNat

namespace Json

inductive Number where
  | int (n : Int) (inRange : -2 ^ (63 : Nat) ≤ n ∧ n < 2 ^ (64 : Nat))
  | float (x : Binary64) (finite : x.isFinite)
  deriving DecidableEq

def Number.ofInt? (n : Int) : Option Number :=
  if h : -2 ^ (63 : Nat) ≤ n ∧ n < 2 ^ (64 : Nat) then some (.int n h) else none

def Number.ofFloat? (x : Binary64) : Option Number :=
  if h : x.isFinite then some (.float x h) else none

end Json

inductive Json where
  | null
  | bool (b : Bool)
  | num (n : Json.Number)
  | str (s : String)
  | arr (items : List Json)
  | obj (members : List (String × Json))

namespace Json

instance : Inhabited Json := ⟨.null⟩

/-- JSON has no infinities and no NaN. -/
def ofFloat (x : Binary64) : Json := ((Number.ofFloat? x).map Json.num).getD .null

def int? (n : Int) : Option Json := (Number.ofInt? n).map Json.num

def ofBool? : Json → Option Bool
  | .bool b => some b
  | _ => none

/-- A member of an object; nothing is a member of anything else. -/
def member? (name : String) : Json → Option Json
  | .obj members => Entries.find? name members
  | _ => none

mutual

/-- Every object in the document, at any depth, lists its members by strictly ascending name. -/
def Ordered : Json → Prop
  | .arr items => OrderedItems items
  | .obj members => Entries.Sorted members ∧ OrderedMembers members
  | _ => True

def OrderedItems : List Json → Prop
  | [] => True
  | j :: rest => j.Ordered ∧ OrderedItems rest

def OrderedMembers : List (String × Json) → Prop
  | [] => True
  | (_, j) :: rest => j.Ordered ∧ OrderedMembers rest

end

end Json

end RulePipeline
