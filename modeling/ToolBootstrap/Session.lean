import ToolBootstrap.Console
import ToolBootstrap.Disk
import ToolBootstrap.Invocation

/- A session: what a run reads and changes, and what it hands to its runner.

   The runner is a parameter. It may answer by the whole history of its invocations, which it keeps
   in a state of its own, and it may change the disk. The session records every invocation and every
   piece of output, oldest first. -/

namespace ToolBootstrap

/-- Answers invocations. -/
abbrev Runner (σ : Type) := Invocation → Disk × σ → Except Failure Output × (Disk × σ)

/-- The state of a run. -/
structure Session (σ : Type) where
  disk : Disk
  /-- What the runner remembers. -/
  memory : σ
  /-- What has been handed to the runner. -/
  calls : List Invocation
  /-- What has been written. -/
  console : List Console.Entry

/-- A step of a run. -/
abbrev Act (σ : Type) (α : Type) := StateM (Session σ) α

namespace Session

variable {σ α : Type}

def start (disk : Disk) (memory : σ) : Session σ := ⟨disk, memory, [], []⟩

def say (record : Console.Record) : Act σ Unit :=
  modify fun s => { s with console := s.console ++ [.record record] }

def print (text : String) : Act σ Unit :=
  modify fun s => { s with console := s.console ++ [.line text] }

def onDisk (change : Disk → α × Disk) : Act σ α :=
  modifyGet fun s => ((change s.disk).1, { s with disk := (change s.disk).2 })

def look (question : Disk → α) : Act σ α := do
  return question (← get).disk

/-- Hands an invocation to the runner. -/
def invoke (runner : Runner σ) (call : Invocation) : Act σ (Except Failure Output) :=
  modifyGet fun s =>
    let answer := runner call (s.disk, s.memory)
    (answer.1, { s with
      disk := answer.2.1
      memory := answer.2.2
      calls := s.calls ++ [call] })

end Session

/-! ## Runners that answer from a table -/

namespace Runner

/-- Answers from a table of command lines; a command that is not listed succeeds silently. -/
def scripted {σ : Type} (replies : List (String × Except Failure Output)) : Runner σ :=
  fun call state => ((replies.lookup call.line).getD (.ok Output.nothing), state)

end Runner

end ToolBootstrap
