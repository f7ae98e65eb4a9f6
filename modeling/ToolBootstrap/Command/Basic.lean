import ToolBootstrap.Config.Issue
import ToolBootstrap.Elapsed
import ToolBootstrap.Git
import ToolBootstrap.Receipt
import ToolBootstrap.Session

/- What a command needs from outside, and how it can fail. -/

namespace ToolBootstrap

/-- What a command needs besides the disk: the environment, a git library, a runner, and the two
things that a clock tells. -/
structure Surroundings (σ : Type) where
  env : Environment
  git : Git
  runner : Runner σ
  /-- How long a clone takes, as the record of it tells. -/
  cloneTime : Elapsed
  /-- When an installation ends, as the receipt tells. -/
  finishedAt : String

/-- Why a command failed. -/
inductive CommandFault where
  /-- The configuration cannot be loaded. -/
  | badConfig (path : Path) (fault : DocumentFault)
  /-- An installation is refused for a problem, the first of some number. -/
  | invalidConfig (problem : Problem) (count : Nat)
  /-- A check has found some number of issues. -/
  | failedCheck (count : Nat)
  | noHome
  | unsupportedShell (name : String)
  /-- The manager's directory cannot be expanded. -/
  | badDirectory (trouble : Trouble)
  /-- A run has ended early. -/
  | aborted (failure : Failure)
  /-- The receipt cannot be loaded. -/
  | badReceipt (path : Path) (fault : DocumentFault)
  deriving Repr

def DocumentFault.message : DocumentFault → String
  | .unreadable fault => fault.message
  | .malformed => "not a valid document"
  | .misfit found => found.message

namespace CommandFault

def noHomeMessage : String := "Failed to get home directory"

def trouble : CommandFault → Trouble
  | .badConfig path fault => ⟨Config.loadMessage path fault, [fault.message]⟩
  | .invalidConfig problem count =>
    ⟨"Invalid configuration: " ++ problem.message ++ " (run `asdf-bootstrap check` for all " ++
      toString count ++ " issue(s))", []⟩
  | .failedCheck count =>
    ⟨"Configuration validation failed (" ++ toString count ++ " issue(s)).", []⟩
  | .noHome => ⟨noHomeMessage, []⟩
  | .unsupportedShell name =>
    ⟨"Unsupported shell: " ++ name ++ " (expected bash, zsh or fish)", []⟩
  | .badDirectory trouble => trouble
  | .aborted failure => ⟨"Bootstrap aborted", [failure.message]⟩
  | .badReceipt path fault => ⟨Receipt.loadMessage path fault, [fault.message]⟩

end CommandFault

namespace Command

/-- The shell that is asked for by its name, or else that of the session. -/
def chosenShell (env : Environment) : Option String → Except CommandFault Shell
  | none => .ok env.shell
  | some name =>
    match Shell.ofName? name with
    | some shell => .ok shell
    | none => .error (.unsupportedShell name)

def home (env : Environment) : Except CommandFault Path :=
  match env.home? with
  | some home => .ok home
  | none => .error .noHome

/-- The configured manager, its directory expanded. -/
def configuredManager (env : Environment) (config : Config) (home : Path) :
    Except CommandFault Manager :=
  match config.manager.resolve env home with
  | .ok manager => .ok manager
  | .error trouble => .error (.badDirectory trouble)

end Command

end ToolBootstrap
