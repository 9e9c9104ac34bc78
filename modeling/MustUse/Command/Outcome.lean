import MustUse.Command.Flags
import MustUse.Config.Load
import MustUse.Host.Run
import MustUse.Log
import MustUse.Render.Format

/-!
# The outcome of a report

How the settings of a report come about and what the command leaves behind. A setting of the command
line wins over the configuration file, and the file over the defaults. The reading of arguments and
of configuration files and the run over the packages are given as tools, so that what is said here
holds for any of them.

Main definitions:

- `Tools`: what the command relies on;
- `ConfigSource`, `effective`: the settings in force;
- `runOptions`: the run that options and settings ask for;
- `Failure`, `Failure.message`: why there is no report;
- `report`: the findings and their rendering;
- `Outcome`, `outcome`: exit status and output of the command.
-/

namespace MustUse
namespace Command

open Config Report Host Render

/-- What the command relies on. -/
structure Tools where
  /-- The options that arguments stand for. -/
  arguments : List String → Except FlagError Options
  /-- What a configuration file holds. -/
  decode : Decoder
  /-- The run over packages. -/
  run : RunOptions → Except LoadFailure Findings

/-- Where the configuration comes from. -/
inductive ConfigSource where
  /-- There is no configuration file. -/
  | absent
  /-- A file with its content; nothing is given for a file that cannot be read. -/
  | file (path : String) (content : Option String)
deriving DecidableEq, Repr

/-- The configured settings. -/
def ConfigSource.settings (decode : Decoder) : ConfigSource → Except LoadError Settings
  | .absent => .ok .defaults
  | .file path content => Config.loadWith decode path content

/-- Why there is no report. -/
inductive Failure where
  | flags (e : FlagError)
  | config (e : LoadError)
  | setting (e : SettingError)
  | load (e : LoadFailure)
deriving DecidableEq, Repr

/-- The description of a failure. -/
def Failure.message : Failure → String
  | .flags e => e.message
  | .config e => e.message
  | .setting e => e.message
  | .load e => e.message

/-- The settings in force: those of the command line over the configured ones, if both the
configured ones and the result are valid. -/
def effective (decode : Decoder) (source : ConfigSource) (overrides : Overrides) :
    Except Failure Settings :=
  match source.settings decode with
  | .error e => .error (.config e)
  | .ok configured =>
    let settings := overrides.apply configured
    match settings.validate with
    | .error e => .error (.setting e)
    | .ok () => .ok settings

/-- The format that settings ask for. -/
def formatOf (isTerminal : Bool) (settings : Settings) : Except SettingError Format :=
  match useColor settings.color isTerminal with
  | .error e => .error e
  | .ok color => Format.ofName settings.format color

/-- The run that options and the settings in force ask for. -/
def runOptions (options : Options) (settings : Settings) : RunOptions :=
  { dir := options.dir
    patterns := options.patterns
    tests := settings.tests
    funcs := Spec.parseList settings.funcList
    jobs := settings.jobs }

/-- The findings of a run and their rendering. -/
def report (tools : Tools) (isTerminal : Bool) (source : ConfigSource) (options : Options) :
    Except Failure (Findings × String) :=
  match effective tools.decode source options.overrides with
  | .error e => .error e
  | .ok settings =>
    match formatOf isTerminal settings with
    | .error e => .error (.setting e)
    | .ok format =>
      match tools.run (runOptions options settings) with
      | .error e => .error (.load e)
      | .ok found => .ok (found, format.render found.diagnostics)

/-- What a command leaves behind. -/
structure Outcome where
  status : Nat
  stdout : String
  stderr : String
deriving DecidableEq, Repr

/-- The exit status of a command that has found nothing. -/
def statusClean : Nat := 0

/-- The exit status of a command that has failed. -/
def statusFailed : Nat := 1

/-- The exit status of a command that has found something. -/
def statusFound : Nat := 3

/-- The name of the command in its messages. -/
def commandName : String := "retvalreport"

/-- The lines of a log. -/
def logLines (log : Log) (lines : List String) : String :=
  String.join (lines.map fun line => log.line "%s" [line])

/-- The outcome of a report; `opening` is what has been logged before it. -/
def outcome (log : Log) (opening : List String) : Except Failure (Findings × String) → Outcome
  | .error e =>
    { status := statusFailed
      stdout := ""
      stderr := logLines log opening ++ commandName ++ ": " ++ e.message ++ "\n" }
  | .ok (found, text) =>
    { status := if found.diagnostics.isEmpty then statusClean else statusFound
      stdout := text
      stderr := logLines log (opening ++ found.progress) }

end Command
end MustUse
