import MustUse.Command.Report

/-!
# The vet command

The command that analyses one package after the other, each after the packages it imports, and lists
what is found in the packages that were named and in their tests.

Main definitions:

- `VetOptions`, `VetOptions.ofArguments`;
- `findingLine`: the line that is written for a finding;
- `runVet`: the outcome of the command on a file tree.
-/

namespace MustUse
namespace Command

open FileTree Host Load

/-- The options of the command: a list of further functions, and patterns. -/
structure VetOptions where
  funcs : String := ""
  patterns : List String := []
deriving DecidableEq, Repr

/-- Why arguments cannot be read. -/
inductive VetError where
  | unknownFlag (name : String)
  | missingValue (name : String)
deriving DecidableEq, Repr

/-- The description of an error. -/
def VetError.message : VetError → String
  | .unknownFlag name => "flag provided but not defined: -" ++ name
  | .missingValue name => "flag needs an argument: -" ++ name

/-- The name and the value of a flag, which may have one or two dashes. -/
def vetFlag? (arg : String) : Option (String × Option String) :=
  let body :=
    match arg.toList with
    | '-' :: '-' :: rest => rest
    | '-' :: rest => rest
    | _ => []
  if body.isEmpty then
    none
  else
    match Text.cut '=' body with
    | some (name, value) => some (String.ofList name, some (String.ofList value))
    | none => some (String.ofList body, none)

namespace VetOptions

/-- The options after more arguments. The first argument that is no flag ends the flags, and so
does a double dash. -/
def read (o : VetOptions) : List String → Except VetError VetOptions
  | [] => .ok o
  | arg :: rest =>
    if arg = "--" then
      .ok { o with patterns := rest }
    else
      match vetFlag? arg with
      | none => .ok { o with patterns := arg :: rest }
      | some (name, value?) =>
        if name ≠ "funcs" then
          .error (.unknownFlag name)
        else
          match value? with
          | some value => read { o with funcs := value } rest
          | none =>
            match rest with
            | [] => .error (.missingValue name)
            | value :: rest => read { o with funcs := value } rest

/-- The options of a command line. -/
def ofArguments (args : List String) : Except VetError VetOptions :=
  read {} args

end VetOptions

/-- The line that is written for a finding. -/
def findingLine (files : Syntax.FileSet) (f : Finding) : String :=
  (files.position f.place).text ++ ": " ++ f.message ++ "\n"

/-- The lines about a program: errors of its packages, then what is found in the packages that were
named and have no errors. What is found in a package and again in its variant with tests is listed
once. -/
def vetLines (program : Program) (funcs : String) : List String × List String :=
  let results := (Pass.runAll program.fileSet Marker.FactStore.empty (program.units funcs)).1
  let findings := (program.packages.zip results).flatMap fun (p, result) =>
    match result with
    | .ok r => if p.isNamed && p.errors.isEmpty then r.findings else []
    | .error _ => []
  (program.named.flatMap fun p => p.errors.map fun e => e.text ++ "\n",
    (findings.map (findingLine program.fileSet)).eraseDups)

/-- The outcome of the command with the given arguments. -/
def runVet (w : Workspace) (args : List String) : Outcome :=
  match VetOptions.ofArguments args with
  | .error e => { status := 2, stdout := "", stderr := e.message ++ "\n" }
  | .ok o =>
    let patterns := if o.patterns.isEmpty then defaultPatterns else o.patterns
    let failed (e : LoadFailure) : Outcome :=
      { status := statusFailed, stdout := "", stderr := e.message ++ "\n" }
    match load w.tree w.cwd patterns true with
    | .error reason => failed (.loader reason)
    | .ok program =>
      if program.named.isEmpty then
        failed (.noPackages patterns)
      else
        let (errors, findings) := vetLines program o.funcs
        { status :=
            if !errors.isEmpty then statusFailed
            else if findings.isEmpty then statusClean
            else statusFound
          stdout := ""
          stderr := String.join (errors ++ findings) }

end Command
end MustUse
