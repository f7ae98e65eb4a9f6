import ToolBootstrap.Session
import ToolBootstrap.Text.Blank

/- The host that commands really run on.

   A host can do two things: find the file that a program name leads to on a search path, and
   start a file and wait until it has ended. The runner of a host writes the search path, finds
   the program on it and starts it with it; an invocation succeeds when the process exits with
   status zero, and every other way of ending is a failure that names the command line. -/

namespace ToolBootstrap

/-- How a process ended: by itself, or by a signal. -/
inductive Ending where
  | exited (status : Int)
  | killed
  deriving DecidableEq, Repr

def Ending.status? : Ending → Option Int
  | .exited status => some status
  | .killed => none

structure Finished where
  stdout : Bytes
  stderr : Bytes
  ending : Ending
  deriving DecidableEq, Repr

namespace Finished

/-- What a process wrote, as text: one replacement character for each broken piece. -/
def output (process : Finished) : Output :=
  ⟨Utf8.lossy process.stdout, Utf8.lossy process.stderr⟩

/-- What a failed process has to say: its error stream, or its output where that is blank. -/
def complaint (process : Finished) : String :=
  let complaint := trim process.output.stderr
  if complaint.isEmpty then trim process.output.stdout else complaint

/-- The answer to the invocation that started a process. -/
def answer (process : Finished) (line : String) : Except Failure Output :=
  if process.ending = .exited 0 then .ok process.output
  else .error (.commandFailed line process.ending.status? process.complaint)

end Finished

/-- Finds programs and starts them. -/
structure Host (σ : Type) where
  /-- The file that a program name leads to on a written search path. -/
  find : String → Bytes → Disk × σ → Option Path
  /-- Starts a file with arguments and a written search path, and waits for its end. -/
  start : Path → List String → Bytes → Disk × σ → Except IoFault Finished × (Disk × σ)

/-- What is said of a program that is not on the search path. -/
def notFoundMessage (program : String) : String :=
  program ++ " not found on search path: cannot find binary path"

/-- Runs invocations on a host. -/
def Runner.ofHost {σ : Type} (host : Host σ) : Runner σ := fun call state =>
  match call.path.written with
  | .error failure => (.error failure, state)
  | .ok written =>
    match host.find call.program written state with
    | none => (.error (.commandFailed call.line none (notFoundMessage call.program)), state)
    | some file =>
      match host.start file call.args written state with
      | (.error fault, after) => (.error (.commandFailed call.line none fault.message), after)
      | (.ok process, after) => (process.answer call.line, after)

end ToolBootstrap
