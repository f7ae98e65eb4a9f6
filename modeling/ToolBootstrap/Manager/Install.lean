import ToolBootstrap.Git
import ToolBootstrap.Manager.Basic

/- Installing the version manager.

   A directory that is there is taken as it is. Otherwise the repository is cloned at its pinned
   version; a clone that does not reach it is removed again, so that the next run starts anew. -/

namespace ToolBootstrap.Manager

/-- How the manager came to be installed. -/
inductive State where
  | cloned
  | alreadyPresent
  deriving DecidableEq, Repr

def isInstalled (m : Manager) (disk : Disk) : Bool := disk.pathExists m.dir

/-- The command line that a failed clone is reported under. -/
def cloneLine (m : Manager) : String :=
  "git clone " ++ m.repository ++ " " ++ m.dir.display ++ " --branch " ++ m.version

/-- Removes a clone that did not reach its pinned version. -/
def discard (m : Manager) (disk : Disk) : Disk :=
  if m.isInstalled disk then disk.removeDirectory m.dir else disk

/-- Clones the manager, and leaves the head of the clone on the commit that its version names. What
had been made when that fails is still there. -/
def cloneAtTag (m : Manager) (git : Git) (disk : Disk) : Except String Unit × Disk :=
  match git.clone m.repository m.dir disk with
  | (.error message, made) => (.error message, made)
  | (.ok base, cloned) =>
    match git.pinned base m.version cloned with
    | .error message => (.error message, cloned)
    | .ok commit =>
      match git.checkout base commit cloned with
      | (.error message, after) => (.error message, after)
      | (.ok (), placed) => git.detach base commit placed

/-- Installs the manager unless it is there. -/
def ensureInstalled (m : Manager) (git : Git) (disk : Disk) : Except Failure State × Disk :=
  if m.isInstalled disk then (.ok .alreadyPresent, disk)
  else
    match m.cloneAtTag git disk with
    | (.ok (), done) => (.ok .cloned, done)
    | (.error message, made) =>
      (.error (.commandFailed m.cloneLine none message), m.discard made)

end ToolBootstrap.Manager
