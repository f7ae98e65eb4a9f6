import ToolBootstrap.Disk
import ToolBootstrap.Text.Lines

/- The file that an interactive shell reads when it starts.

   Lines are added at most once: a file with a line that mentions the marker is left alone. Added
   lines start on a line of their own, whatever the file ended with before. -/

namespace ToolBootstrap.StartupFile

/-- What became of the lines to be added. -/
inductive Update where
  | appended
  | alreadyPresent
  deriving DecidableEq, Repr

/-- Whether some line of a text mentions the marker. -/
def mentions (text marker : String) : Bool :=
  (lines text.toList).any (occursIn marker.toList)

/-- Whether some line of a file mentions the marker; a file that is not there mentions nothing. -/
def containsMarker (disk : Disk) (path : Path) (marker : String) : Except Failure Bool :=
  if disk.pathExists path then
    match disk.readText path with
    | .ok text => .ok (mentions text marker)
    | .error fault => .error (.io fault)
  else .ok false

/-- The line feed that ends an unfinished last line. -/
def separator (old : Bytes) : Bytes :=
  if old ≠ [] ∧ old.getLast? ≠ some 0x0A then [0x0A] else []

/-- Lines as they are added, each with its line feed. -/
def block (added : List String) : Bytes :=
  added.flatMap fun text => Utf8.encode text ++ [0x0A]

/-- What a file holds, as far as it can be read. -/
def contentOrNothing (disk : Disk) (path : Path) : Bytes :=
  match disk.read path with
  | .ok data => data
  | .error _ => []

/-- Adds lines unless the marker is mentioned already; the directories above the file are made. -/
def ensureLines (path : Path) (marker : String) (added : List String) (disk : Disk) :
    Except Failure Update × Disk :=
  match containsMarker disk path marker with
  | .error failure => (.error failure, disk)
  | .ok true => (.ok .alreadyPresent, disk)
  | .ok false =>
    let prepared : Except IoFault Unit × Disk :=
      match path.parent? with
      | none => (.ok (), disk)
      | some parent => disk.makeDirectories parent
    match prepared with
    | (.error fault, made) => (.error (.io fault), made)
    | (.ok (), made) =>
      match made.append path (separator (contentOrNothing made path) ++ block added) with
      | (.error fault, after) => (.error (.io fault), after)
      | (.ok (), written) => (.ok .appended, written)

end ToolBootstrap.StartupFile
