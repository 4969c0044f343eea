import Portability.Catalog.Targets
import Portability.Check.Css
import Portability.Check.Html
import Portability.Program.Config
import Portability.Program.Host
import Portability.Program.Report

/-!
# Running the program

A run reads its configuration, then the snapshot, then chooses targets and options, and then checks
its files one by one. What the command line says counts before what the configuration says. The
first of these steps that fails ends the run, also a directory that cannot be searched for files,
except that a file which cannot be checked does not keep the others from being checked.
-/
namespace Portability.Program

variable {m : Type → Type} [Monad m]

def name : String := "webcompat"

def version : String := "0.1.0"

def usage : List String :=
  ["Usage: " ++ name ++ " [OPTIONS] [COMMAND]",
    "",
    "Commands:",
    "  css INPUT    Check CSS declarations given as a JSON array of \x7bname, value\x7d",
    "  html INPUT   Check HTML elements given as JSON \x7belement, attributes\x7d",
    "  browsers     List the default target browsers",
    "",
    "Options:",
    "  -c, --config <FILE>    Configuration file path",
    "  -d, --data <SNAPSHOT>  Compat data snapshot (JSON)",
    "  -v, --verbose          Increase verbosity (can be used multiple times)",
    "  -h, --help             Print help",
    "  -V, --version          Print version"]

def loadConfig (host : Host m) (options : CommonOptions) : ExceptT Fault m Config := do
  match options.config with
  | none => return {}
  | some path =>
    match ← host.readText path with
    | .ok text => Config.ofText path text
    | .error problem => throw (.unreadableConfig path problem)

/-- Loads the catalog from the snapshot at a path. -/
def loadSnapshot (host : Host m) (path : String) : ExceptT Fault m Catalog := do
  match ← host.readText path with
  | .ok text => Catalog.ofText text
  | .error problem => throw (.unreadableFile path problem)

def loadCatalog (host : Host m) (options : CommonOptions) (config : Config) :
    ExceptT Fault m Catalog :=
  match options.data <|> config.data with
  | some path => loadSnapshot host path
  | none => throw .noSnapshot

/-- The targets of a check: those it names, else those of the configuration, else the default. -/
def chooseTargets (catalog : Catalog) (config : Config) (specs : List String) :
    Except Fault (List Target) :=
  if specs.isEmpty then
    match config.targets with
    | some targets => .ok (targets.map catalog.nameTarget)
    | none => .ok catalog.defaultTargets
  else specs.mapM catalog.targetOfSpec

def chooseOptions (config : Config) (request : CheckRequest) : CheckOptions :=
  { values := request.values || config.values.getD false
    flagUnknown := (request.flagUnknown <|> config.flagUnknown).getD true }

/-- The issues of a text in some language. -/
def issuesOfText (language : Language) : Catalog → String → List Target → CheckOptions →
    Except Fault (List Issue) :=
  match language with
  | .css => cssIssuesOfText
  | .html => htmlIssuesOfText

/-- The result of checking the file at a path with this content. -/
def checkFile (check : String → Except Fault (List Issue)) (path : String)
    (content : Except FileProblem String) : FileResult :=
  match content with
  | .ok text => ⟨path, check text⟩
  | .error problem => ⟨path, .error (.unreadableFile path problem)⟩

/-- The files that a check is about: one file, or all JSON files of a directory. -/
def filesOf (host : Host m) (request : CheckRequest) : ExceptT SearchProblem m (List String) := do
  if request.recursive then
    return (← host.jsonFiles? request.input).getD [request.input]
  else return [request.input]

def runCheck (host : Host m) (options : CommonOptions) (config : Config)
    (request : CheckRequest) : ExceptT Fault m Outcome := do
  let catalog ← loadCatalog host options config
  let targets ← chooseTargets catalog config request.targets
  let check := fun text =>
    issuesOfText request.language catalog text targets (chooseOptions config request)
  match ← ((filesOf host request).run : m (Except SearchProblem (List String))) with
  | .error found => return outcomeOfSearchProblem found
  | .ok files =>
    let results ← files.mapM fun path => return checkFile check path (← host.readText path)
    return outcomeOfResults request.format results (← host.elapsed)

def runCommand (host : Host m) (options : CommonOptions) (command : Command) :
    ExceptT Fault m Outcome := do
  let config ← loadConfig host options
  match command with
  | .check request => runCheck host options config request
  | .browsers format =>
    let catalog ← loadCatalog host options config
    return outcomeOfTargets format catalog.defaultTargets
  | .nothing =>
    return ⟨0, unlines ["No subcommand specified. Use --help for usage information."], ""⟩

/-- Runs the program with the words of its command line. -/
def run (host : Host m) (words : List String) : m Outcome := do
  match Invocation.ofWords? words with
  | none =>
    return ⟨2, "", unlines ["error: the command line is not understood", "",
      "For more information, try '--help'."]⟩
  | some .version => return ⟨0, unlines [name ++ " " ++ version], ""⟩
  | some .help => return ⟨0, unlines usage, ""⟩
  | some (.run options command) =>
    match ← (runCommand host options command).run with
    | .ok outcome => return outcome
    | .error fault => return outcomeOfFault fault

end Portability.Program
