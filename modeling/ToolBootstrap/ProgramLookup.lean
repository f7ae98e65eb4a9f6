import ToolBootstrap.Disk
import ToolBootstrap.Environment

/- The file that a program name leads to.

   A name with a slash in it is looked for in the working directory alone. Any other name is looked
   for in each entry of the search path in turn, where a `~` in front of an entry stands for the
   home directory and an empty entry for the working directory. Only a file that may be executed
   counts; links are followed. -/

namespace ToolBootstrap

/-- Whether a path leads to a file that may be executed. -/
def Disk.isProgram (disk : Disk) (path : Path) : Bool :=
  match disk.locate path with
  | .ok (_, .file _ executable) => executable
  | _ => false

def Disk.workingPath (disk : Disk) : Path :=
  ⟨slash :: [slash].intercalate disk.workingDirectory⟩

namespace Path

def componentOctets : Component → Bytes
  | .root => [slash]
  | .here => dotName
  | .parent => dotDotName
  | .name octets => octets

def extend (p : Path) (components : List Component) : Path :=
  components.foldl (fun p c => p.join ⟨componentOctets c⟩) p

/-- Whether a path has more than one component, or ends in a slash. -/
def hasSlash (p : Path) : Bool :=
  decide (1 < p.components.length) || p.octets.getLast? == some slash

/-- A path seen from a directory: without a leading `.`, and below the directory unless it is
absolute. -/
def seenFrom (p directory : Path) : Path :=
  if p.isAbsolute then p else directory.extend (p.components.filter (· ≠ .here))

/-- A path with a `~` as its first component read as the home directory. -/
def withHome (p : Path) (home? : Option Path) : Path :=
  match p.components, home? with
  | .name octets :: rest, some home => if octets = [0x7E] then home.extend rest else p
  | _, _ => p

end Path

/-- The files that a program name may lead to, first choice first. -/
def programCandidates (env : Environment) (name : Path) (written : Bytes) (working : Path) :
    List Path :=
  if name.hasSlash then [name.seenFrom working]
  else
    (written.splitOn colon).map fun entry => ((Path.mk entry).withHome env.home?).join name

/-- The file that a program name leads to. -/
def findProgram? (env : Environment) (disk : Disk) (name : Path) (written : Bytes) : Option Path :=
  (programCandidates env name written disk.workingPath).find? disk.isProgram

end ToolBootstrap
