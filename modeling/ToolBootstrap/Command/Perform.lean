import ToolBootstrap.Command.Inspection
import ToolBootstrap.Command.Installation
import ToolBootstrap.CommandLine.Reader

/- From a request to a command. The configuration is loaded first, whatever the task. -/

namespace ToolBootstrap.Command

open Session

variable {σ : Type}

def performTask (around : Surroundings σ) (config : Config) :
    Task → Act σ (Except CommandFault Unit)
  | .install ci ciFile shell startupFile =>
    install around config ⟨ci, ciFile, shell, startupFile⟩
  | .env shell => printExport around.env config shell
  | .status => status around.env
  | .check => check config

/-- Performs a request. -/
def perform (around : Surroundings σ) (request : Request) : Act σ (Except CommandFault Unit) := do
  match ← look fun disk => Config.load disk request.config with
  | .error fault => return .error (.badConfig (request.config.getD ⟨[]⟩) fault)
  | .ok config => performTask around config request.task

end ToolBootstrap.Command
