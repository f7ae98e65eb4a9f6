import ToolBootstrap.Path

/- What can go wrong while bootstrapping.

   Only an unwritable CI environment file ends a run; every other failure is caught at the step
   that met it and reported. -/

namespace ToolBootstrap

/-- What the operating system refuses, or what a file turns out not to be. -/
inductive IoFault where
  | noEntry
  | alreadyThere
  | notDirectory
  | isDirectory
  | nameTooLong
  | linkLoop
  | nulInName
  | notUtf8
  | notPermitted
  | badFormat
  | noSpace
  | nulInArgument
  | other (message : String)
  deriving DecidableEq, Repr

def IoFault.message : IoFault → String
  | .noEntry => "No such file or directory (os error 2)"
  | .alreadyThere => "File exists (os error 17)"
  | .notDirectory => "Not a directory (os error 20)"
  | .isDirectory => "Is a directory (os error 21)"
  | .nameTooLong => "File name too long (os error 36)"
  | .linkLoop => "Too many levels of symbolic links (os error 40)"
  | .nulInName => "file name contained an unexpected NUL byte"
  | .notUtf8 => "stream did not contain valid UTF-8"
  | .notPermitted => "Permission denied (os error 13)"
  | .badFormat => "Exec format error (os error 8)"
  | .noSpace => "No space left on device (os error 28)"
  | .nulInArgument => "nul byte found in provided data"
  | .other message => message

/-- A failure of one bootstrap step. -/
inductive Failure where
  /-- What was to be created is already there. -/
  | alreadyExists (what : String)
  /-- The CI environment file is not given, or cannot be written. -/
  | writeUnavailable (path : Option Path) (reason : String)
  /-- A command could not be started, or did not end in success. -/
  | commandFailed (command : String) (code : Option Int) (message : String)
  /-- A setting makes no sense. -/
  | badSetting (reason : String)
  /-- A file operation failed. -/
  | io (fault : IoFault)
  deriving DecidableEq, Repr

namespace Failure

/-- The path that a failure names, or a stand-in for one that was never given. -/
def pathText : Option Path → String
  | some path => path.display
  | none => "(unset)"

/-- How a command's exit code is mentioned, if it has one. -/
def exitText : Option Int → String
  | some code => " with exit code " ++ toString code
  | none => ""

def message : Failure → String
  | .alreadyExists what => what ++ " already exists"
  | .writeUnavailable path reason =>
    "CI environment file " ++ pathText path ++ " is not writable: " ++ reason
  | .commandFailed command code text => "`" ++ command ++ "` failed" ++ exitText code ++ ": " ++
    text
  | .badSetting reason => "invalid configuration: " ++ reason
  | .io fault => "IO error: " ++ fault.message

/-- Whether a failure ends the whole run. -/
def isFatal : Failure → Bool
  | .writeUnavailable .. => true
  | _ => false

end Failure

end ToolBootstrap
