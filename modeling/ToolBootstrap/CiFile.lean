import ToolBootstrap.Disk
import ToolBootstrap.SearchPath

/- The file through which a CI job hands variables to its later steps.

   The search path is added as one line. Nothing is written for a path that has no line, and every
   failure is `Failure.writeUnavailable`. -/

namespace ToolBootstrap.CiFile

/-- The line that sets the search path, with its line feed. -/
def line (value : String) : Bytes := Utf8.encode ("PATH=" ++ value ++ "\n")

/-- Adds the search path to the CI file. -/
def persist (file : Option Path) (path : SearchPath) (disk : Disk) : Except Failure Unit × Disk :=
  match file with
  | none => (.error (.writeUnavailable none "GITHUB_ENV is not set"), disk)
  | some target =>
    match path.lineValue with
    | .error failure => (.error (.writeUnavailable (some target) failure.message), disk)
    | .ok value =>
      match disk.append target (line value) with
      | (.error fault, after) => (.error (.writeUnavailable (some target) fault.message), after)
      | (.ok (), written) => (.ok (), written)

end ToolBootstrap.CiFile
