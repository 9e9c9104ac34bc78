import MustUse.Command.Outcome
import MustUse.Config.Discover
import MustUse.Load.Program

/-!
# The report command

The command that reports on packages: it reads its arguments, finds the configuration, loads the
packages and renders what is found.

Main definitions:

- `helpText`;
- `Workspace.configSource`: the configuration that options ask for;
- `Workspace.tools`: arguments, configuration files and packages as they are read from a file tree;
- `runReportWith`, `runReport`: the outcome of the command on a file tree.
-/

namespace MustUse
namespace Command

open Config FileTree Host

/-- What is shown when help is asked for. -/
def helpText : String :=
  Text.joinWith "\n"
    ["retvalreport loads the given packages (default ./...) and reports every call",
     "whose result is discarded although the called function is marked with a",
     "//retval:mustuse directive or named with --funcs.",
     "",
     "Usage:",
     "  retvalreport [flags] [packages]",
     "",
     "Flags:",
     "      --color string    colorize text output (auto|on|off) (default \"auto\")",
     "      --config string   path to a .retval.toml file (default: discovered from the working directory)",
     "  -C, --dir string      run as if started in this directory",
     "      --format string   output format (text|json|yaml) (default \"text\")",
     "      --funcs strings   additional functions whose result must be used (e.g., pkg.Func or pkg.Type.Method)",
     "  -h, --help            help for retvalreport",
     "      --jobs int        max parallel package passes (0=GOMAXPROCS)",
     "      --tests           include test files",
     "  -v, --verbose         log progress to stderr",
     ""]

/-- The surroundings of a command: the files, and the directory it is started in. -/
structure Workspace where
  tree : Tree
  cwd : Path
deriving Repr

namespace Workspace

/-- The directory that options ask to work in. -/
def directory (w : Workspace) (o : Options) : Path :=
  w.cwd.resolve o.dir

/-- The configuration that options ask for: a given file, or the one found from the directory to
work in. A given file is seen from the directory that the command is started in. -/
def configSource (w : Workspace) (o : Options) : ConfigSource :=
  if o.config ≠ "" then
    .file o.config (w.tree.read? (w.cwd.resolve o.config))
  else
    match discover w.tree.entry (w.directory o) with
    | none => .absent
    | some path => .file path.text (w.tree.read? path)

/-- The packages of the file tree. -/
def load (w : Workspace) : Loader := fun request =>
  (Load.load w.tree (w.cwd.resolve request.dir) request.patterns request.tests).map (·.batch)

/-- The tools that read the file tree. -/
def tools (w : Workspace) : Tools :=
  { arguments := Options.ofArguments
    decode := Config.decode
    run := analyse .sequential w.load }

end Workspace

/-- What is logged about the configuration. -/
def configLog : ConfigSource → List String
  | .absent => []
  | .file path _ => ["using config " ++ path]

/-- The outcome of the command with the given arguments, whatever tools it relies on. -/
def runReportWith (tools : Tools) (w : Workspace) (isTerminal : Bool) (args : List String) :
    Outcome :=
  match tools.arguments args with
  | .error e => outcome { enabled := false, hasWriter := true } [] (.error (.flags e))
  | .ok options =>
    if options.help then
      { status := statusClean, stdout := helpText, stderr := "" }
    else
      let source := w.configSource options
      outcome { enabled := options.verbose, hasWriter := true } (configLog source)
        (report tools isTerminal source options)

/-- The outcome of the command with the given arguments. -/
def runReport (w : Workspace) (isTerminal : Bool) (args : List String) : Outcome :=
  runReportWith w.tools w isTerminal args

end Command
end MustUse
