import ToolBootstrap.SearchPath

/- A command as it is handed to a runner, and what comes back from it. -/

namespace ToolBootstrap

/-- A program, its arguments, and the search path it is found on and started with. -/
structure Invocation where
  program : String
  args : List String
  path : SearchPath
  deriving DecidableEq, Repr

/-- The command line of a program and its arguments, with one space between them. -/
def commandLine (program : String) (args : List String) : String :=
  " ".intercalate (program :: args)

def Invocation.line (call : Invocation) : String := commandLine call.program call.args

/-- The texts that a finished command wrote. -/
structure Output where
  stdout : String
  stderr : String
  deriving DecidableEq, Repr

def Output.nothing : Output := ⟨"", ""⟩

end ToolBootstrap
