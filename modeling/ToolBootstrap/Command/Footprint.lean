import ToolBootstrap.Command.Installation
import ToolBootstrap.CommandLine.Basic
import ToolBootstrap.ProgramLookup

/- The paths that a request may look at. -/

namespace ToolBootstrap.Command

/-- The files that the commands of an installation may be. -/
def programPaths (env : Environment) (working : Path) (planned : Bootstrap) (tools : List Tool) :
    List Path :=
  match planned.extendedPath.written with
  | .error _ => []
  | .ok written =>
    let names := managerProgram :: tools.map Tool.versionCommand
    names.flatMap fun name => programCandidates env (Path.ofText name) written working

def installPaths (env : Environment) (working : Path) (config : Config)
    (options : InstallOptions) : List Path :=
  match plannedRun env config options with
  | .error _ => []
  | .ok planned =>
    [planned.manager.dir, planned.startupFile] ++ planned.ciFile.toList ++
      programPaths env working planned config.tools

/-- The paths that a task may look at. -/
def footprint (env : Environment) (working : Path) (config : Config) (task : Task) : List Path :=
  let receipt := (env.stateDir?.map Receipt.path).toList
  match task with
  | .install ci ciFile shell startupFile =>
    receipt ++ installPaths env working config ⟨ci, ciFile, shell, startupFile⟩
  | .status => receipt
  | .env _ | .check => []

end ToolBootstrap.Command
