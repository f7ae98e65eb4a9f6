import ToolBootstrap.Config.Basic
import ToolBootstrap.SemVer

/- What is wrong with a configuration.

   Issues of the whole configuration come first, then those of the tools in their order, and for
   one tool those of its name, of a repeated name, of its version and of its command. -/

namespace ToolBootstrap

/-- One thing that is wrong. -/
inductive Problem where
  | noRepository
  | noManagerVersion
  | noTools
  | badName
  | repeatedName
  | badVersion (version : String) (fault : SemVer.Fault)
  | badCommand (command : String)
  deriving DecidableEq, Repr

def Problem.message : Problem → String
  | .noRepository => "manager repository must not be empty"
  | .noManagerVersion => "manager version must not be empty"
  | .noTools => "no tools configured"
  | .badName => "tool name may only contain letters, digits, '-' and '_'"
  | .repeatedName => "tool is listed more than once"
  | .badVersion version fault =>
    "pinned version " ++ Quoted.text version ++ " is not a semantic version: " ++ fault.message
  | .badCommand command => "command " ++ Quoted.text command ++ " must be a single program name"

/-- A problem, and the tool that has it, if it is one tool's. -/
structure Issue where
  tool : Option String
  problem : Problem
  deriving DecidableEq, Repr

namespace Config

/-- A problem if a condition holds. -/
def flag (condition : Bool) (problem : Problem) : List Problem :=
  if condition then [problem] else []

def isNameChar (c : Char) : Bool := c.isAlphanum || c == '-' || c == '_'

def isToolName (name : String) : Bool := !name.isEmpty && name.toList.all isNameChar

/-- Whether a text may be a program: more than white space, and none in it. -/
def isProgram (command : String) : Bool := !isAllBlank command && !hasBlank command

def versionProblems (version : String) : List Problem :=
  match SemVer.parse version with
  | .ok _ => []
  | .error fault => [.badVersion version fault]

def commandProblems : Option String → List Problem
  | none => []
  | some command => flag (!isProgram command) (.badCommand command)

/-- The problems of a tool that comes after tools with the names `seen`. -/
def toolProblems (seen : List String) (tool : Tool) : List Problem :=
  flag (!isToolName tool.name) .badName ++ flag (seen.contains tool.name) .repeatedName ++
    versionProblems tool.version ++ commandProblems tool.command

/-- The issues of tools that come after tools with the names `seen`. -/
def toolIssues (seen : List String) : List Tool → List Issue
  | [] => []
  | tool :: rest =>
    (toolProblems seen tool).map (Issue.mk (some tool.name)) ++
      toolIssues (tool.name :: seen) rest

def generalProblems (config : Config) : List Problem :=
  flag (isAllBlank config.manager.repository) .noRepository ++
    flag (isAllBlank config.manager.version) .noManagerVersion ++
    flag config.tools.isEmpty .noTools

/-- Everything that is wrong with a configuration, in order. -/
def issues (config : Config) : List Issue :=
  config.generalProblems.map (Issue.mk none) ++ toolIssues [] config.tools

end Config

end ToolBootstrap
