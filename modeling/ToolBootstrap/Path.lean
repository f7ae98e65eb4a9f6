import ToolBootstrap.Text.Quoted

/- Paths of files: an octet run read as names between slashes.

   A path keeps the octets it was written with; two paths are the same place by their components,
   so repeated slashes, a final slash and a `.` that is not in front make no difference, while
   `..` is never resolved. -/

namespace ToolBootstrap

def slash : UInt8 := 0x2F

def dotName : Bytes := [0x2E]

def dotDotName : Bytes := [0x2E, 0x2E]

/-- A path, as it was written. -/
structure Path where
  octets : Bytes
  deriving DecidableEq, Repr

/-- What a path names one after the other. -/
inductive Component where
  | root
  | here
  | parent
  | name (octets : Bytes)
  deriving DecidableEq, Repr

namespace Path

def ofText (text : String) : Path := ⟨Utf8.encode text⟩

def text? (p : Path) : Option String := Utf8.decode? p.octets

/-- A path as a message shows it: one replacement character for each broken piece. -/
def display (p : Path) : String := Utf8.lossy p.octets

def quoted (p : Path) : String := Quoted.octets p.octets

def isAbsolute (p : Path) : Bool := p.octets.head? == some slash

/-! ## Components -/

/-- The component that a run between slashes names, unless it is empty or `.`. -/
def inner? (run : Bytes) : Option Component :=
  if run = [] ∨ run = dotName then none
  else if run = dotDotName then some .parent
  else some (.name run)

/-- What stands in front of a path's names: the root, a leading `.`, or nothing; and the runs
between slashes after it. -/
def split (p : Path) : Option Component × List Bytes :=
  match p.octets.splitOn slash with
  | [] => (none, [])
  | first :: rest =>
    if p.isAbsolute then (some .root, rest)
    else if first = dotName then (some .here, rest)
    else (none, first :: rest)

def components (p : Path) : List Component :=
  p.split.1.toList ++ p.split.2.filterMap inner?

/-- Whether two paths have the same components. -/
def same (p q : Path) : Bool := p.components == q.components

/-- The last component's name, if a path ends in one. -/
def fileName? (p : Path) : Option Bytes :=
  match p.components.getLast? with
  | some (.name octets) => some octets
  | _ => none

/-- The text in front of a path's names. -/
def lead : Option Component → Bytes
  | some .root => [slash]
  | some .here => dotName
  | _ => []

/-- Runs without those at the end that name nothing. -/
def dropIdle (runs : List Bytes) : List Bytes :=
  (runs.reverse.dropWhile fun run => (inner? run).isNone).reverse

/-- The path that runs between slashes write after a lead. -/
def ofRuns : Option Component → List Bytes → Path
  | some .here, [] => ⟨dotName⟩
  | some .here, runs => ⟨dotName ++ slash :: [slash].intercalate runs⟩
  | front, runs => ⟨lead front ++ [slash].intercalate runs⟩

/-- The path without its last component, in the same spelling; neither the root nor the empty
path has one. -/
def parent? (p : Path) : Option Path :=
  match dropIdle p.split.2, p.split.1 with
  | [], some .here => some ⟨[]⟩
  | [], _ => none
  | runs, front => some (ofRuns front (dropIdle runs.dropLast))

/-! ## Joining -/

/-- An absolute right side replaces the left; otherwise one slash comes between, unless the left
is empty or already ends in one. -/
def join (p q : Path) : Path :=
  if q.isAbsolute then q
  else if p.octets = [] ∨ p.octets.getLast? = some slash then ⟨p.octets ++ q.octets⟩
  else ⟨p.octets ++ slash :: q.octets⟩

/-- A path below another, named by a text. -/
def child (p : Path) (name : String) : Path := p.join (ofText name)

/-- The directory above, or the path itself where there is none above. -/
def parentOrSelf (p : Path) : Path := p.parent?.getD p

end Path

end ToolBootstrap
