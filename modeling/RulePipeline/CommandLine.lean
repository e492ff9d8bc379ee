import RulePipeline.Dotenv
import RulePipeline.Host
import RulePipeline.Report
import RulePipeline.Run
import RulePipeline.Yaml.Definition

/-! The command line: `run` executes the pipeline in a file and prints what it returns, `validate`
only compiles it. -/
namespace RulePipeline

/-- What there is help about: the program, or one of its commands. -/
inductive HelpTopic where
  | program
  | run
  | validate
  | help

inductive Command where
  | run (file : String) (context : Option String)
  | validate (file : String)
  | help (topic : HelpTopic)
  | version

namespace Command

/-- The options given so far, each at most once. -/
structure Options where
  file : Option String
  context : Option String

inductive OptionName where
  | file
  | context

def Options.set (o : Options) (name : OptionName) (value : String) : Option Options :=
  match name with
  | .file => if o.file.isSome then none else some { o with file := some value }
  | .context => if o.context.isSome then none else some { o with context := some value }

/-- What an argument is: an option with or without its value, a request for help, or the end of
the options. -/
inductive Arg where
  | option (name : OptionName) (value : Option String)
  | help
  | done
  | other

def longOption? (takesContext : Bool) (name : String) : Option OptionName :=
  if name = "file" then some .file
  else if takesContext ∧ name = "context" then some .context
  else none

def shortOption? (takesContext : Bool) (name : Char) : Option OptionName :=
  if name = 'f' then some .file
  else if takesContext ∧ name = 'c' then some .context
  else none

def Arg.ofOption (name : Option OptionName) (value : Option (List Char)) : Arg :=
  match name with
  | some n => .option n (value.map String.ofList)
  | none => .other

/-- `--name`, `--name=value`, `-n`, `-nvalue` and `-n=value`. -/
def classify (takesContext : Bool) (arg : String) : Arg :=
  match arg.toList with
  | ['-', '-'] => .done
  | '-' :: '-' :: cs =>
    let name := String.ofList (cs.takeWhile (· != '='))
    match cs.dropWhile (· != '=') with
    | [] => if name = "help" then .help else .ofOption (longOption? takesContext name) none
    | _ :: value => .ofOption (longOption? takesContext name) (some value)
  | '-' :: 'h' :: _ => .help
  | ['-', c] => .ofOption (shortOption? takesContext c) none
  | '-' :: c :: '=' :: value => .ofOption (shortOption? takesContext c) (some value)
  | '-' :: c :: value => .ofOption (shortOption? takesContext c) (some value)
  | _ => .other

/-- A lone hyphen can be a value, and every other argument that starts with one cannot. -/
def isValue (arg : String) : Bool := arg = "-" || !arg.startsWith "-"

/-- The options of a command; none if they are malformed, and nothing inside if they ask for
help. -/
def readOptions (takesContext : Bool) : Options → List String → Option (Option Options)
  | o, [] => some (some o)
  | o, arg :: rest =>
    match classify takesContext arg with
    | .help => some none
    | .done => if rest.isEmpty then some (some o) else none
    | .other => none
    | .option name (some value) => do readOptions takesContext (← o.set name value) rest
    | .option name none =>
      match rest with
      | value :: rest =>
        if isValue value then do readOptions takesContext (← o.set name value) rest else none
      | [] => none

def HelpTopic.ofNames? : List String → Option HelpTopic
  | [] => some .program
  | ["run"] => some .run
  | ["validate"] => some .validate
  | ["help"] => some .help
  | _ => none

/-- A request in front of any command; of several letters the first counts. -/
def ofFlag? (arg : String) : Option Command :=
  match arg.toList with
  | '-' :: 'h' :: _ => some (.help .program)
  | '-' :: 'V' :: _ => some .version
  | _ =>
    if arg = "--help" then some (.help .program)
    else if arg = "--version" then some .version
    else none

/-- None for a usage error. -/
def parse? : List String → Option Command
  | [] => none
  | "run" :: args => do
    match ← readOptions true ⟨none, none⟩ args with
    | some o => return .run (← o.file) o.context
    | none => return .help .run
  | "validate" :: args => do
    match ← readOptions false ⟨none, none⟩ args with
    | some o => return .validate (← o.file)
    | none => return .help .validate
  | "help" :: names => (HelpTopic.ofNames? names).map .help
  | arg :: _ => ofFlag? arg

end Command

/-- How a command ends, and what it asked of the data sources. -/
structure Exit where
  code : Nat
  out : String
  err : String
  calls : List Call

namespace CommandLine

def helpText : HelpTopic → String
  | .program =>
    "Usage: pipedream <COMMAND>\n\n" ++
    "Commands:\n" ++
    "  run       Run a pipeline from a file\n" ++
    "  validate  Check that a pipeline definition loads and builds\n" ++
    "  help      Print this message or the help of the given subcommand(s)\n\n" ++
    "Options:\n" ++
    "  -h, --help     Print help\n" ++
    "  -V, --version  Print version"
  | .run =>
    "Run a pipeline from a file\n\n" ++
    "Usage: pipedream run [OPTIONS] --file <FILE>\n\n" ++
    "Options:\n" ++
    "  -f, --file <FILE>        Path to the pipeline definition\n" ++
    "  -c, --context <CONTEXT>  Initial context as a JSON object\n" ++
    "  -h, --help               Print help"
  | .validate =>
    "Check that a pipeline definition loads and builds\n\n" ++
    "Usage: pipedream validate --file <FILE>\n\n" ++
    "Options:\n" ++
    "  -f, --file <FILE>  Path to the pipeline definition\n" ++
    "  -h, --help         Print help"
  | .help =>
    "Print this message or the help of the given subcommand(s)\n\n" ++
    "Usage: pipedream help [COMMAND]...\n\n" ++
    "Arguments:\n" ++
    "  [COMMAND]...  Print help for the subcommand(s)"

def versionText : String := "pipedream-rs 0.1.0"

def failed (r : Report) (calls : List Call) : Exit := ⟨1, "", r.render, calls⟩

def succeeded (out : String) (calls : List Call) : Exit := ⟨0, out ++ "\n", "", calls⟩

def loadDefinition (host : Host) (file : String) : Except Report PipelineDef :=
  match host.readText file with
  | .error e =>
    .error ⟨(Failure.config ("cannot read " ++ file ++ ": " ++ e.message)).message, []⟩
  | .ok text => (PipelineDef.ofYaml text).mapError fun e => ⟨e.message, []⟩

/-- The definition in a file and its pipeline. No comparisons by the host are known here. -/
def loadPipeline (host : Host) (file : String) : Except Report (PipelineDef × Pipeline) := do
  let d ← loadDefinition host file
  let p ← (d.compile .empty).mapError fun e => (⟨e.message, []⟩ : Report)
  return (d, p)

def initialContext : Option String → Except Report Context
  | none => .ok .empty
  | some text => do
    let j ← (Json.read text).mapError fun f => (⟨"Failed to parse --context", [f.message]⟩ : Report)
    (Context.ofJson j).mapError fun e => ⟨e.message, []⟩

def registry (host : Host) : Registry where
  sources := .ofList (DataSource.builtins host)
  aggregators := Aggregator.builtins

def runPipeline (host : Host) (d : PipelineDef) (p : Pipeline) (context : Context) : Exit :=
  let (result, t) := Pipeline.execute (registry host) p ⟨context, .fresh⟩
  match result with
  | .ok v => succeeded ((v.map Value.toJson).getD .null).pretty t.handle.calls
  | .error e =>
    failed ⟨"Pipeline '" ++ d.name ++ "' failed", e.message :: e.causes⟩ t.handle.calls

/-- The definition is read before the context, whose faults count only if it is sound. -/
def execute (host : Host) : Command → Exit
  | .help topic => succeeded (helpText topic) []
  | .version => succeeded versionText []
  | .validate file =>
    match loadPipeline host file with
    | .error r => failed r []
    | .ok (d, p) =>
      succeeded ("Pipeline '" ++ d.name ++ "' is valid (" ++ toString p.length ++
        " top-level nodes)") []
  | .run file context =>
    match loadPipeline host file with
    | .error r => failed r []
    | .ok (d, p) =>
      match initialContext context with
      | .error r => failed r []
      | .ok c => runPipeline host d p c

/-- The file in the current directory that adds environment variables. -/
def dotenvFile : String := ".env"

def withDotenv (host : Host) : Host :=
  match host.readFile dotenvFile with
  | .ok bytes => { host with environment := Dotenv.load host.environment bytes }
  | .error _ => host

/-- What the command line answers; a usage error ends with code 2. -/
def respond (host : Host) (args : List String) : Exit :=
  match Command.parse? args with
  | some c => execute (withDotenv host) c
  | none => ⟨2, "", helpText .program ++ "\n", []⟩

end CommandLine

end RulePipeline
