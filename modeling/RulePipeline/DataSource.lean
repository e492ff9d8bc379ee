import RulePipeline.Term
import RulePipeline.Value.Type

/-! Data sources answer queries. What a source answers may depend on its argument, on the calls
made before and on whether the run has been cancelled; it may also cancel the run. -/
namespace RulePipeline

/-- A call that reached the source, with the argument as the source received it. -/
structure Call where
  source : String
  param : Value

/-- What a run shares with the sources it asks. -/
structure Handle where
  calls : List Call
  cancelled : Bool

def Handle.fresh : Handle := ⟨[], false⟩

def Handle.cancel (h : Handle) : Handle := { h with cancelled := true }

structure Reply where
  result : Except String Value
  cancels : Bool

def Reply.ok (v : Value) : Reply := ⟨.ok v, false⟩

def Reply.fail (text : String) : Reply := ⟨.error text, false⟩

inductive SourceError where
  | paramType (expected : ValueType) (actual : Kind)
  | query (text : String)
  deriving DecidableEq

def SourceError.message : SourceError → String
  | .paramType expected actual =>
    "cannot convert params of type " ++ actual.text ++ " to " ++ expected.text
  | .query text => text

structure DataSource where
  param : ValueType
  response : ValueType
  answer : Handle → Value → Reply

/-- The argument is converted first; one that does not convert never reaches the source. -/
def DataSource.query (s : DataSource) (name : String) (h : Handle) (params : Value) :
    Except SourceError Value × Handle :=
  match s.param.convert params with
  | none => (.error (.paramType s.param params.resolved.kind), h)
  | some v =>
    let reply := s.answer h v
    (reply.result.mapError .query, ⟨h.calls ++ [⟨name, v⟩], h.cancelled || reply.cancels⟩)

end RulePipeline
