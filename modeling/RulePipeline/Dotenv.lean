import RulePipeline.Entries
import RulePipeline.Text.Alphanumeric
import RulePipeline.Text.Blank

/-! Environment variables from a `.env` file: one assignment a line. Values may be quoted, refer to
other variables and be followed by a comment. Reading stops at the first line that is malformed,
and a variable that is already set keeps its value. -/
namespace RulePipeline.Dotenv

/-- The variables that are set, and the assignments seen so far in the file. -/
structure Scope where
  environment : SortedMap String
  assigned : SortedMap String

def Scope.lookup (s : Scope) (name : String) : List Char :=
  ((s.environment.find? name).or (s.assigned.find? name)).getD "" |>.toList

/-- Inside or outside of quotes, or in the name of a variable. -/
inductive Mode where
  | bare
  | single
  | double
  /-- After a dollar sign, with the quotes around it and the name so far, last character first. -/
  | name (inDouble : Bool) (acc : List Char)
  | braced (inDouble : Bool) (acc : List Char)
  /-- After a blank outside of quotes. -/
  | ending

def resume (inDouble : Bool) : Mode := if inDouble then .double else .bare

def escaped? (c : Char) : Option Char :=
  if c == 'n' then some '\n'
  else if ['\\', '\'', '"', '$', ' '].contains c then some c
  else none

def substitute (scope : Scope) (acc out : List Char) : List Char :=
  (scope.lookup (String.ofList acc.reverse)).reverse ++ out

/-- The text of a value, collected last character first; none if it is malformed. -/
def readValue (scope : Scope) : Mode → List Char → List Char → Option (List Char)
  | .bare, out, [] | .ending, out, [] => some out
  | .name false acc, out, [] => some (substitute scope acc out)
  | _, _, [] => none
  | .ending, out, c :: rest =>
    if c == ' ' || c == '\t' then readValue scope .ending out rest
    else if c == '#' then some out
    else none
  | .single, out, c :: rest =>
    if c == '\'' then readValue scope .bare out rest else readValue scope .single (c :: out) rest
  | .name inDouble acc, out, c :: rest =>
    if Text.isAlphanumeric c then readValue scope (.name inDouble (c :: acc)) out rest
    else if c == '\x7b' && acc.isEmpty then readValue scope (.braced inDouble []) out rest
    else
      let out := substitute scope acc out
      if c == '$' then readValue scope (.name inDouble []) out rest
      else readValue scope (resume inDouble) (c :: out) rest
  | .braced inDouble acc, out, c :: rest =>
    if c == '\x7d' then readValue scope (resume inDouble) (substitute scope acc out) rest
    else readValue scope (.braced inDouble (c :: acc)) out rest
  | .double, out, '\\' :: c :: rest =>
    match escaped? c with
    | some c => readValue scope .double (c :: out) rest
    | none => none
  | .bare, out, '\\' :: c :: rest =>
    match escaped? c with
    | some c => readValue scope .bare (c :: out) rest
    | none => none
  | .double, out, c :: rest =>
    if c == '$' then readValue scope (.name true []) out rest
    else if c == '"' then readValue scope .bare out rest
    else if c == '\\' then readValue scope .double out rest
    else readValue scope .double (c :: out) rest
  | .bare, out, c :: rest =>
    if c == '$' then readValue scope (.name false []) out rest
    else if c == '\'' then readValue scope .single out rest
    else if c == '"' then readValue scope .double out rest
    else if c == '\\' then readValue scope .bare out rest
    else if c == ' ' || c == '\t' then readValue scope .ending out rest
    else readValue scope .bare (c :: out) rest

def isNameStart (c : Char) : Bool := c.isAlpha || c == '_'

def isNameChar (c : Char) : Bool := c.isAlphanum || c == '_' || c == '.'

/-- A name and what follows it and the blanks after it. -/
def readName (cs : List Char) : Option (String × List Char) :=
  if cs.head?.any isNameStart then
    some (String.ofList (cs.takeWhile isNameChar), Text.trimStart (cs.dropWhile isNameChar))
  else none

/-- The name on the left and the text on the right of an equals sign. The word `export` in front of
a name is passed over. -/
def readAssignment (cs : List Char) : Option (String × List Char) := do
  let (name, rest) ← readName cs
  match rest with
  | '=' :: value => return (name, Text.trimStart value)
  | rest =>
    if name ≠ "export" then none
    else match ← readName rest with
      | (name, '=' :: value) => return (name, Text.trimStart value)
      | _ => none

def isVoid (cs : List Char) : Bool := cs.isEmpty || cs.head? == some '#'

def Scope.assign (s : Scope) (name value : String) : Scope where
  environment :=
    if (s.environment.find? name).isSome then s.environment
    else s.environment.insert name value
  assigned := s.assigned.insert name value

/-- None if the line is malformed. -/
def readLine (scope : Scope) (line : String) : Option Scope :=
  let cs := (Text.trim line).toList
  if isVoid cs then some scope
  else do
    let (name, value) ← readAssignment cs
    if isVoid value then return scope.assign name ""
    let out ← readValue scope .bare [] value
    return scope.assign name (String.ofList out.reverse)

/-- The lines of a file; none for one that is not UTF-8. -/
def lines (bytes : ByteArray) : List (Option String) :=
  (bytes.data.toList.splitOn 10).map fun line => String.fromUTF8? ⟨line.toArray⟩

def readLines : Scope → List (Option String) → Scope
  | scope, [] => scope
  | scope, line :: rest =>
    match line.bind (readLine scope) with
    | some scope => readLines scope rest
    | none => scope

/-- The variables after those of the file have been added. -/
def load (environment : SortedMap String) (bytes : ByteArray) : SortedMap String :=
  (readLines ⟨environment, .empty⟩ (lines bytes)).environment

/-- Everything in a file that could be the name of a variable. -/
def words (bytes : ByteArray) : List String :=
  (lines bytes).flatMap fun line =>
    ((line.getD "").split fun c => !(isNameChar c || Text.isAlphanumeric c)).toList.map (·.toString)

end RulePipeline.Dotenv
