/- A tool pinned to one version. -/

namespace ToolBootstrap

/-- A tool: the plugin that installs it, the pinned version, and the program that reports the
installed version when it is not named like the plugin. -/
structure Tool where
  name : String
  version : String
  command : Option String
  deriving DecidableEq, Repr

namespace Tool

def versionCommand (tool : Tool) : String := tool.command.getD tool.name

def display (tool : Tool) : String := tool.name ++ " " ++ tool.version

end Tool

end ToolBootstrap
