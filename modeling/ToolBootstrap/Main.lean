import ToolBootstrap.Command.Footprint
import ToolBootstrap.Command.Perform
import ToolBootstrap.CommandLine.Usage
import ToolBootstrap.LocalGit.Library
import ToolBootstrap.Machine
import ToolBootstrap.Timestamp

/- The program.

   What a request may look at is copied from the file system onto a disk, the request is performed
   there, and what has changed is copied back. Commands of the host are scripts, and are run on the
   disk as well; repositories are local ones. -/

namespace ToolBootstrap.Program

/-! ## From the file system and back -/

def isDirectory (path : String) : IO Bool := do
  let working ← IO.currentDir
  (working / path).isDir

def content? (path : String) : IO (Option Bytes) := do
  try
    return some (← IO.FS.readBinFile path).toList
  catch _ => return none

/-- Copies a directory onto a disk, if there is one. -/
def copyDirectory (disk : Disk) (path : Path) : IO Disk := do
  match path.text? with
  | none => return disk
  | some text => if ← isDirectory text then return (disk.makeDirectories path).2 else return disk

/-- Copies what stands at a path onto a disk, with the directories above it. Every file counts as
executable. -/
def copyIn (disk : Disk) (path : Path) : IO Disk := do
  let disk ← copyDirectory (← copyDirectory disk path.parentOrSelf) path
  match path.text? with
  | none => return disk
  | some text =>
    match ← content? text with
    | none => return disk
    | some data =>
      return (disk.write path data).2.makeExecutable path

/-- Copies an entry of a disk to the file system. -/
def copyOut (entry : Location × Node) : IO Unit := do
  let path : Path := ⟨slash :: [slash].intercalate entry.1⟩
  match path.text?, entry.2 with
  | some text, .directory => IO.FS.createDirAll text
  | some text, .file data _ => IO.FS.writeBinFile text (ByteArray.mk data.toArray)
  | _, _ => return ()

/-- The entries of a disk that another one does not have, directories from the top. -/
def changes (before after : Disk) : List (Location × Node) :=
  let new := after.entries.filter fun e => before.node? e.1 != some e.2
  new.mergeSort fun a b => a.1.length ≤ b.1.length

/-! ## The surroundings -/

/-- A variable as the system writes it. -/
def settingOf? (written : Bytes) : Option (String × Bytes) :=
  match Utf8.decode? (written.takeWhile (· ≠ CommandLine.equals)) with
  | some name => some (name, (written.dropWhile (· ≠ CommandLine.equals)).drop 1)
  | none => none

/-- The home directory that a line of the list of accounts gives the user of a number. -/
def homeIn? (user : Bytes) (line : Bytes) : Option Path :=
  match line.splitOn colon with
  | [_, _, number, _, _, home, _] => if number = user then some ⟨home⟩ else none
  | _ => none

def accountHome? : IO (Option Path) := do
  let lines (path : String) : IO (List Bytes) := do
    return ((← content? path).getD []).splitOn 0x0A
  let user := (← lines "/proc/self/status").find? (Utf8.encode "Uid:\t").isPrefixOf
  match user.bind fun line => (line.splitOn 0x09)[1]? with
  | none => return none
  | some number => return (← lines "/etc/passwd").findSome? (homeIn? number)

def environment : IO Environment := do
  let written := (← content? "/proc/self/environ").getD []
  return ⟨((written.splitOn 0).filter (· ≠ [])).filterMap settingOf?, ← accountHome?⟩

/-- The time, as the modification time of a new file tells it. -/
def now : IO String := do
  let (_, file) ← IO.FS.createTempFile
  let time := (← file.metadata).modified
  IO.FS.removeFile file
  return Timestamp.text time.sec.toNat time.nsec.toNat

def writeEntry (noColor : Bool) (entry : Console.Entry) : IO Unit := do
  let stream ← if entry.onStderr then IO.getStderr else IO.getStdout
  stream.putStr (entry.render (Console.usesColor noColor (← stream.isTty)))
  stream.flush

/-- What is printed for a failed command. -/
def failureText (trouble : Trouble) : String :=
  let causes := String.join (trouble.causes.map fun cause => "    " ++ cause ++ "\n")
  "Error: " ++ trouble.message ++ "\n" ++
    (if trouble.causes.isEmpty then "" else "\nCaused by:\n" ++ causes)

/-! ## Requests -/

/-- The disk that a request is performed on. -/
def diskFor (env : Environment) (request : Request) : IO Disk := do
  let working := (← IO.currentDir).toString
  let bare : Disk := { Disk.ofEntries [] with workingDirectory := Disk.runs (Utf8.encode working) }
  let shell := Path.ofText "/bin/sh"
  let disk ← (Path.ofText working :: shell :: request.config.toList).foldlM copyIn bare
  match Config.load disk request.config with
  | .error _ => return disk
  | .ok config =>
    (Command.footprint env disk.workingPath config request.task).foldlM copyIn disk

/-- Performs a request; the exit status. -/
def serve (env : Environment) (request : Request) : IO UInt32 := do
  let disk ← diskFor env request
  let around : Surroundings Unit :=
    ⟨env, LocalGit.library, .ofHost (Machine.host env), ⟨0, 0⟩, ← now⟩
  let (result, session) := (Command.perform around request).run (Session.start disk ())
  (changes disk session.disk).forM copyOut
  session.console.forM (writeEntry (env.get? "NO_COLOR").isSome)
  match result with
  | .ok () => return 0
  | .error fault =>
    IO.eprint (failureText fault.trouble)
    return 1

end ToolBootstrap.Program

open ToolBootstrap in
def main (arguments : List String) : IO UInt32 := do
  let env ← Program.environment
  match CommandLine.read env (arguments.map Utf8.encode) with
  | .ok request => Program.serve env request
  | .error refusal =>
    if refusal.exitStatus = 0 then IO.print (CommandLine.Refusal.text refusal)
    else IO.eprint (CommandLine.Refusal.text refusal)
    return UInt32.ofNat refusal.exitStatus
