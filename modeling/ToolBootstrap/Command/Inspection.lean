import ToolBootstrap.Command.Basic

/- The commands that only tell something: the line for the search path, what became of the last
   installation, and what is wrong with the configuration. -/

namespace ToolBootstrap.Command

open Session

variable {σ : Type}

/-- The line that puts the manager's directories on the search path of a shell. -/
def exportedLine (env : Environment) (config : Config) (shell : Option String) :
    Except CommandFault String := do
  let shell ← chosenShell env shell
  let home ← home env
  let manager ← configuredManager env config home
  return shell.exportLine manager.pathDirs

/-- Prints the line for the search path. -/
def printExport (env : Environment) (config : Config) (shell : Option String) :
    Act σ (Except CommandFault Unit) := do
  match exportedLine env config shell with
  | .error fault => return .error fault
  | .ok line =>
    print line
    return .ok ()

/-! ## The last installation -/

def toolRecord (tool : ToolReceipt) : Console.Record :=
  match tool.status with
  | .installed => .success tool.name (tool.version ++ " (" ++ tool.detail ++ ")")
  | .failed => .warn (tool.name ++ " " ++ tool.version ++ " not installed: " ++ tool.detail)

def lastRunMessage (receipt : Receipt) : String :=
  toString receipt.installed.length ++ " of " ++ toString receipt.tools.length ++
    " tool(s) installed, last run " ++ receipt.finishedAt

def sayAll : List Console.Record → Act σ Unit
  | [] => return ()
  | record :: rest => do
    say record
    sayAll rest

def tellReceipt (receipt : Receipt) : Act σ Unit := do
  say (.status "asdf" (receipt.managerVersion ++ " at " ++ receipt.managerDir.display))
  sayAll (receipt.tools.map toolRecord)
  say (.info (lastRunMessage receipt))

/-- Tells what became of the last installation. -/
def status (env : Environment) : Act σ (Except CommandFault Unit) := do
  match env.stateDir? with
  | none => return .error .noHome
  | some dir =>
    let path := Receipt.path dir
    if !(← look fun disk => disk.pathExists path) then
      say (.info "No install run recorded yet. Run 'asdf-bootstrap install' first.")
      return .ok ()
    else
      match ← look fun disk => Receipt.load disk path with
      | .error fault => return .error (.badReceipt path fault)
      | .ok receipt =>
        tellReceipt receipt
        return .ok ()

/-! ## The configuration -/

def issueRecord (issue : Issue) : Console.Record :=
  match issue.tool with
  | some tool => .error (tool ++ ": " ++ issue.problem.message)
  | none => .error issue.problem.message

def validMessage (config : Config) : String :=
  "asdf " ++ config.manager.version ++ " with " ++ toString config.tools.length ++
    " pinned tool(s) is valid."

/-- Tells what is wrong with the configuration. -/
def check (config : Config) : Act σ (Except CommandFault Unit) := do
  match config.issues with
  | [] =>
    say (.success "Check" (validMessage config))
    return .ok ()
  | issues =>
    sayAll (issues.map issueRecord)
    return .error (.failedCheck issues.length)

end ToolBootstrap.Command
