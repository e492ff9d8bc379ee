import RulePipeline.CommandLine

/-! The program. Answering is a pure function of the files and variables that it looks at; those
that a first attempt turns out to need are fetched, and the attempt is repeated. -/
namespace RulePipeline

/-- Files and variables fetched so far. -/
structure Fetched where
  files : List (String × Except FileError ByteArray)
  environment : SortedMap String
  /-- Names that were looked up, whether they are set or not. -/
  known : List String

namespace Fetched

def host (f : Fetched) : Host where
  environment := f.environment
  readFile := fun path => (f.files.lookup path).getD (.error .notFound)

def fileError : IO.Error → FileError
  | .noFileOrDirectory _ _ _ => .notFound
  | .inappropriateType _ _ _ => .isDirectory
  | e => .other (toString e)

def readFile (path : String) : IO (Except FileError ByteArray) := do
  try return .ok (← IO.FS.readBinFile path)
  catch e => return .error (fileError e)

def withFile (f : Fetched) (path : String) : IO Fetched := do
  if (f.files.lookup path).isSome then return f
  return { f with files := (path, ← readFile path) :: f.files }

def withVariable (f : Fetched) (name : String) : IO Fetched := do
  if f.known.contains name then return f
  let f := { f with known := name :: f.known }
  match ← IO.getEnv name with
  | some value => return { f with environment := f.environment.insert name value }
  | none => return f

/-- What a call to a builtin data source needs. -/
def withCall (f : Fetched) (c : Call) : IO Fetched := do
  let param := c.param.string?.getD ""
  if c.source = "json_file" then f.withFile param
  else if c.source = "env" then f.withVariable param
  else return f

def size (f : Fetched) : Nat := f.files.length + f.known.length

def ofCommand : Command → List String
  | .run file _ => [file]
  | .validate file => [file]
  | .help _ | .version => []

def start (args : List String) : IO Fetched := do
  let mut f : Fetched := ⟨[], .empty, []⟩
  for path in CommandLine.dotenvFile :: ((Command.parse? args).map ofCommand).getD [] do
    f ← f.withFile path
  if let some (.ok bytes) := f.files.lookup CommandLine.dotenvFile then
    for name in Dotenv.words bytes do
      f ← f.withVariable name
  return f

end Fetched

/-- Repeats the attempt as long as it needs something new. -/
partial def attempt (args : List String) (f : Fetched) : IO Exit := do
  let exit := CommandLine.respond f.host args
  let fetched ← exit.calls.foldlM Fetched.withCall f
  if fetched.size = f.size then return exit else attempt args fetched

end RulePipeline

open RulePipeline in
def main (args : List String) : IO UInt32 := do
  let exit ← attempt args (← Fetched.start args)
  IO.print exit.out
  IO.eprint exit.err
  return UInt32.ofNat exit.code
