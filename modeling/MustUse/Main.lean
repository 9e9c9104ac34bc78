import MustUse.Command.Vet

/-!
# The program

The commands on the files of the machine. The files that a command can ask for are read first: the
module around the directory to work in, what lies above it, and a configuration file that is given.
The name that the program is started by decides between the two commands.
-/

namespace MustUse
namespace Command

open FileTree

/-- The name of the program that analyses one package after the other. -/
def vetName : String := "retval"

/-- The files that are read from a directory with everything below it. -/
def isRead (name : String) : Bool :=
  Load.isSourceName name || name = Load.moduleFileName || name = Config.fileName

/-- The content of a file; nothing if it cannot be read. -/
def readContent (path : Path) : IO (Option String) := do
  try
    return some (← IO.FS.readFile path.text)
  catch _ =>
    return none

/-- The directory with everything below it. The data of a repository is not looked at. -/
partial def readBelow (dir : Path) : IO Tree := do
  let here ← IO.currentDir
  let mut tree : Tree := { files := [], directories := [dir] }
  for entry in ← (here / dir.text).readDir do
    let path := entry.fileName :: dir
    if ← entry.path.isDir then
      if entry.fileName = Config.repositoryName then
        tree := { tree with directories := path :: tree.directories }
      else
        let inner ← readBelow path
        tree :=
          { files := inner.files ++ tree.files
            directories := inner.directories ++ tree.directories }
    else if isRead entry.fileName then
      if let some content ← readContent path then
        tree := { tree with files := (path, content) :: tree.files }
  return tree

/-- What is asked for in a directory and the directories above it. -/
def readAbove : Path → IO Tree
  | [] => return { files := [], directories := [] }
  | name :: parent => do
    let here ← IO.currentDir
    let dir := name :: parent
    let mut tree ← readAbove parent
    for file in [Config.fileName, Load.moduleFileName] do
      if let some content ← readContent (file :: dir) then
        tree := { tree with files := (file :: dir, content) :: tree.files }
    if ← (here / Path.text (Config.repositoryName :: dir)).isDir then
      tree := { tree with directories := (Config.repositoryName :: dir) :: tree.directories }
    return tree

/-- The files that a command can ask for when it works in `dir` with the configuration file
`config`. -/
def readWorkspace (dir config : String) : IO Workspace := do
  let here ← IO.currentDir
  let cwd := Path.resolve [] here.toString
  let place := cwd.resolve dir
  let above ← readAbove place
  let root := (Load.moduleRoot? above place).getD place
  let below ← if ← (here / root.text).isDir then readBelow root else pure above
  let given ← if config = "" then pure none else readContent (cwd.resolve config)
  return {
    tree :=
      { files := (given.map fun text => (cwd.resolve config, text)).toList ++ below.files ++
          above.files
        directories := cwd :: below.directories ++ above.directories }
    cwd := cwd }

end Command
end MustUse

open MustUse Command in
/-- Runs the command that the program's name asks for. -/
def main (args : List String) : IO UInt32 := do
  let stdout ← IO.getStdout
  let name := (← IO.appPath).fileName.getD ""
  let outcome ←
    if name = vetName then
      pure (runVet (← readWorkspace "" "") args)
    else
      match Options.ofArguments args with
      | .ok o => pure (runReport (← readWorkspace o.dir o.config) (← stdout.isTty) args)
      | .error _ =>
        let nowhere : Workspace := { tree := { files := [], directories := [] }, cwd := [] }
        pure (runReport nowhere false args)
  IO.eprint outcome.stderr
  stdout.putStr outcome.stdout
  return outcome.status.toUInt32
