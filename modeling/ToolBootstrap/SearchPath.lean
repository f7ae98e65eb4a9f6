import ToolBootstrap.Failure

/- The command search path: directories in the order in which they are searched.

   The path is a value handed from step to step. It is written with a colon between its entries,
   so an entry that holds a colon cannot be written. -/

namespace ToolBootstrap

def colon : UInt8 := 0x3A

/-- Directories, first searched first. -/
structure SearchPath where
  entries : List Path
  deriving DecidableEq, Repr

namespace SearchPath

def empty : SearchPath := ⟨[]⟩

/-- The entries of a written search path; empty ones are dropped. -/
def ofOctets (written : Bytes) : SearchPath :=
  ⟨((written.splitOn colon).filter (· ≠ [])).map Path.mk⟩

/-- Whether an entry is the same place as `dir`. -/
def contains (path : SearchPath) (dir : Path) : Bool :=
  path.entries.any fun entry => entry.same dir

/-- The path with `dir` searched last, unless it is there already. -/
def add (path : SearchPath) (dir : Path) : SearchPath :=
  if path.contains dir then path else ⟨path.entries ++ [dir]⟩

/-- The path with directories added one after the other. -/
def extended (path : SearchPath) (dirs : List Path) : SearchPath := dirs.foldl add path

/-- Whether two search paths have the same entries by their components. -/
def same (p q : SearchPath) : Bool :=
  p.entries.map Path.components == q.entries.map Path.components

/-- The written form, if no entry holds a colon. -/
def written (path : SearchPath) : Except Failure Bytes :=
  if path.entries.any fun entry => entry.octets.contains colon then
    .error (.badSetting "invalid search path entry: path segment contains separator `:`")
  else .ok ([colon].intercalate (path.entries.map Path.octets))

/-- The written form as text, as an environment line needs it. -/
def lineValue (path : SearchPath) : Except Failure String :=
  match path.written with
  | .error failure => .error failure
  | .ok octets =>
    match Utf8.decode? octets with
    | some text => .ok text
    | none => .error (.badSetting ("search path is not valid UTF-8: " ++ Utf8.lossy octets))

end SearchPath

end ToolBootstrap
