import RulePipeline.DataSource
import RulePipeline.Json.Reader

/-! What the surroundings of a run provide: environment variables and files, and the builtin data
sources that give access to them. -/
namespace RulePipeline

inductive FileError where
  | notFound
  | notDirectory
  | isDirectory
  | nameTooLong
  | zeroInName
  | notText
  | other (text : String)

def FileError.message : FileError → String
  | .notFound => "No such file or directory (os error 2)"
  | .notDirectory => "Not a directory (os error 20)"
  | .isDirectory => "Is a directory (os error 21)"
  | .nameTooLong => "File name too long (os error 36)"
  | .zeroInName => "file name contained an unexpected NUL byte"
  | .notText => "stream did not contain valid UTF-8"
  | .other text => text

structure Host where
  environment : SortedMap String
  readFile : String → Except FileError ByteArray

/-- The text of a file of UTF-8. -/
def Host.readText (host : Host) (path : String) : Except FileError String := do
  match String.fromUTF8? (← host.readFile path) with
  | some text => return text
  | none => throw .notText

namespace DataSource

/-- Answers with its argument. -/
def echo : DataSource where
  param := .any
  response := .any
  answer := fun _ v => .ok v

def readVariable (host : Host) (name : String) : Reply :=
  match host.environment.find? name with
  | some s => .ok (.string s)
  | none => .fail (name ++ ": environment variable not found")

/-- The value of an environment variable. -/
def env (host : Host) : DataSource where
  param := .string
  response := .string
  answer := fun _ v => readVariable host (v.string?.getD "")

def readDocument (host : Host) (path : String) : Reply :=
  match host.readText path with
  | .error e => .fail e.message
  | .ok text =>
    match Json.read text with
    | .error f => .fail f.message
    | .ok j => .ok (.ofJson j)

/-- The value of the JSON document in a file. A cancelled run does not wait for the file. -/
def jsonFile (host : Host) : DataSource where
  param := .string
  response := .any
  answer := fun h v =>
    if h.cancelled then .fail "read cancelled" else readDocument host (v.string?.getD "")

def builtins (host : Host) : List (String × DataSource) :=
  [("echo", echo), ("env", env host), ("json_file", jsonFile host)]

end DataSource

end RulePipeline
