import ToolBootstrap.ProgramLookup
import ToolBootstrap.Script.Run

/- A host made of a disk and an environment.

   The programs of this host are scripts. A script names its interpreter in its first line; the
   only interpreter that can do something by itself is the shell. -/

namespace ToolBootstrap.Machine

def shellLocations : List Location :=
  [[Utf8.encode "bin", Utf8.encode "sh"], [Utf8.encode "usr", Utf8.encode "bin", Utf8.encode "sh"]]

/-- The number of interpreters that may be started for one another. -/
def interpreterLimit : Nat := 5

def isSpace (b : UInt8) : Bool := b == 0x20 || b == 0x09

/-- The interpreter that the first line of a file names, and the one argument it gives it. -/
def interpreter? (data : Bytes) : Option (Path × Option Bytes) :=
  match data with
  | 0x23 :: 0x21 :: rest =>
    let line := (rest.takeWhile (· ≠ 0x0A)).dropWhile isSpace
    let line := (line.reverse.dropWhile isSpace).reverse
    let file := line.takeWhile fun b => !isSpace b
    let argument := (line.drop file.length).dropWhile isSpace
    if file.isEmpty then none else some (⟨file⟩, if argument.isEmpty then none else some argument)
  | _ => none

/-- Starts a file that has been found, with the arguments of its process. -/
def startWithin (env : Environment) (disk : Disk) :
    Nat → Path → List Bytes → Except IoFault Finished × Disk
  | 0, _, _ => (.error .linkLoop, disk)
  | fuel + 1, file, arguments =>
    match disk.locate file with
    | .error fault => (.error fault, disk)
    | .ok (location, node) =>
      match node with
      | .file data true =>
        if shellLocations.contains location then
          let (process, after) := Script.runShell env disk arguments
          (.ok process, after)
        else
          match interpreter? data with
          | none => (.error .badFormat, disk)
          | some (interpreter, none) =>
            startWithin env disk fuel interpreter (file.octets :: arguments)
          | some (interpreter, some argument) =>
            startWithin env disk fuel interpreter (argument :: file.octets :: arguments)
      | _ => (.error .notPermitted, disk)

/-- Starts a file with a search path. A file that is named without a slash is given to the shell if
its format is unknown. -/
def start (env : Environment) (file : Path) (arguments : List Bytes) (written : Bytes)
    (disk : Disk) : Except IoFault Finished × Disk :=
  if (written :: arguments).any fun a => a.contains 0 then (.error .nulInArgument, disk)
  else
    let env := env.set "PATH" written
    match startWithin env disk interpreterLimit file arguments with
    | (.error .badFormat, after) =>
      if file.octets.contains slash then (.error .badFormat, after)
      else
        let (process, after) := Script.runShell env disk (file.octets :: arguments)
        (.ok process, after)
    | result => result

/-- The host that runs programs with an environment; it remembers nothing but the disk. -/
def host {σ : Type} (env : Environment) : Host σ where
  find program written state := findProgram? env state.1 (Path.ofText program) written
  start file arguments written state :=
    let (result, after) := start env file (arguments.map Utf8.encode) written state.1
    (result, after, state.2)

end ToolBootstrap.Machine
