import ToolBootstrap.Path

/- What a command line asks for, and why it may be refused. -/

namespace ToolBootstrap

/-- What the program is to do. -/
inductive Task where
  /-- Installs everything that is configured. -/
  | install (ci : Bool) (ciFile : Option Path) (shell : Option String) (startupFile : Option Path)
  /-- Prints the line that puts the manager on the search path. -/
  | env (shell : Option String)
  /-- Tells what became of the last installation. -/
  | status
  /-- Tells what is wrong with the configuration. -/
  | check
  deriving DecidableEq, Repr

/-- A task, and the options that every task has. -/
structure Request where
  verbose : Bool
  config : Option Path
  task : Task
  deriving DecidableEq, Repr

/-- Why a command line gives no request: it is wrong, or it asks to be told something. -/
inductive Refusal where
  | unknownArgument
  | invalidSubcommand
  | invalidValue
  | invalidUtf8
  /-- An option is given twice. -/
  | argumentConflict
  /-- An option that takes no value is given one. -/
  | tooManyValues
  | missingSubcommand
  /-- Nothing at all is asked for. -/
  | nothingGiven
  | help
  | version
  deriving DecidableEq, Repr

/-- The exit status that goes with a refusal: only who asks to be told something is right. -/
def Refusal.exitStatus : Refusal → Nat
  | .help | .version => 0
  | _ => 2

end ToolBootstrap
