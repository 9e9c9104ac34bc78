import MustUse.FileTree.Basic

/-!
# Finding the configuration file

The configuration file of a directory is the nearest one in the directory itself or above it. The
search does not leave a repository: it ends with the directory that holds the repository's data.

Main definitions: `fileName` and `discover`.
-/

namespace MustUse
namespace Config

open FileTree

/-- The name of configuration files. -/
def fileName : String :=
  ".retval.toml"

/-- The name of the directory that marks the root of a repository. -/
def repositoryName : String :=
  ".git"

/-- The nearest configuration file at or above a directory, for any assignment of entries to
paths. -/
def discover (entry : Path → Entry) : Path → Option Path
  | [] => if entry [fileName] = .absent then none else some [fileName]
  | name :: parent =>
    let dir := name :: parent
    if entry (fileName :: dir) ≠ .absent then some (fileName :: dir)
    else if entry (repositoryName :: dir) = .directory then none
    else discover entry parent

end Config
end MustUse
