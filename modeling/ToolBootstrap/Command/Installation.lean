import ToolBootstrap.Bootstrap
import ToolBootstrap.Command.Basic

/- The command that installs everything.

   Whatever is wrong with the configuration, the shell or the manager's directory is found before
   anything is touched. After that only an unwritable CI file ends the command; a receipt that
   cannot be kept is no more than a warning. -/

namespace ToolBootstrap.Command

open Session

variable {σ : Type}

/-- What an installation may be told on the command line. -/
structure InstallOptions where
  ci : Bool
  ciFile : Option Path
  shell : Option String
  startupFile : Option Path
  deriving DecidableEq, Repr

def requireValid (config : Config) : Except CommandFault Unit :=
  match config.issues with
  | [] => .ok ()
  | first :: rest => .error (.invalidConfig first.problem (rest.length + 1))

/-- The run that an installation makes. -/
def plannedRun (env : Environment) (config : Config) (options : InstallOptions) :
    Except CommandFault Bootstrap := do
  requireValid config
  let home ← home env
  let shell ← chosenShell env options.shell
  let manager ← configuredManager env config home
  return { manager := manager
           searchPath := env.searchPath
           shell := shell
           startupFile := options.startupFile.getD (shell.startupPath home)
           ciFile := options.ciFile }

/-- Keeps a receipt in the state directory. -/
def keepReceipt (env : Environment) (receipt : Receipt) : Act σ Unit := do
  match env.stateDir? with
  | none => say (.warn ("could not locate state directory: " ++ CommandFault.noHomeMessage))
  | some dir =>
    match ← onDisk fun disk => receipt.save disk (Receipt.path dir) with
    | .ok () => return ()
    | .error fault =>
      say (.warn ("could not record install receipt: " ++ ": ".intercalate fault.trouble.chain))

def finishedMessage (report : Report) : String :=
  toString report.installedCount ++ "/" ++ toString report.tools.length ++ " tool(s) installed"

/-- Installs the manager and the tools. -/
def install (around : Surroundings σ) (config : Config) (options : InstallOptions) :
    Act σ (Except CommandFault Unit) := do
  match plannedRun around.env config options with
  | .error fault => return .error fault
  | .ok planned =>
    match ← planned.run around.git around.runner around.cloneTime config.tools options.ci with
    | .error failure => return .error (.aborted failure)
    | .ok report =>
      keepReceipt around.env (report.receipt around.finishedAt)
      say (.success "Finished" (finishedMessage report))
      return .ok ()

end ToolBootstrap.Command
