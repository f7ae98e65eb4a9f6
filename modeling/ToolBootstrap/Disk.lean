import ToolBootstrap.Failure
import ToolBootstrap.Repository

/- Files, directories and symbolic links.

   A disk is a list of entries, each with the names that lead to it from the root. Paths are
   resolved name by name: a link is followed where more names come after it, or where the operation
   follows links, and no more than forty links are followed for one path.

   A file that a path leads to need not be writable all the same. It may be protected, and the space
   on the device may end while it is written to. What goes wrong is not told by the entries, so a
   disk carries a list of mishaps, one place for each time that a file is opened for writing or
   written to. Looking, reading and making directories fail only for what a path leads to. -/

namespace ToolBootstrap

/-- The names that lead from the root to an entry. -/
abbrev Location := List Bytes

/-- What stands at a location. -/
inductive Node where
  | file (data : Bytes) (executable : Bool)
  | directory
  | link (target : Bytes)
  /-- The directory in which a checkout keeps its repository. -/
  | repository (repository : Repository)
  deriving DecidableEq, Repr

def Node.isDirectory : Node → Bool
  | .directory | .repository _ => true
  | _ => false

/-- What goes wrong when a file is opened for writing, or while it is written to: the fault, and how
many octets have been written by then. -/
structure Mishap where
  fault : IoFault
  kept : Nat
  deriving DecidableEq, Repr

/-- Entries by their locations, and the location that relative paths start from. -/
structure Disk where
  entries : List (Location × Node)
  workingDirectory : Location
  /-- What goes wrong the next times; nothing does once the list has ended. -/
  mishaps : List (Option Mishap)
  deriving DecidableEq, Repr

/-- Where a path leads: to an entry, or to a free name in an existing directory. -/
inductive Landing where
  | found (location : Location)
  | vacant (location : Location)
  deriving DecidableEq, Repr

namespace Disk

/-- A disk on which nothing goes wrong. -/
def ofEntries (entries : List (Location × Node)) : Disk := ⟨entries, [], []⟩

/-! ## Entries -/

/-- What stands at a location; the root is always a directory. -/
def node? (disk : Disk) (location : Location) : Option Node :=
  if location = [] then some .directory else disk.entries.lookup location

def put (disk : Disk) (location : Location) (node : Node) : Disk :=
  { disk with entries := (location, node) :: disk.entries.filter fun e => e.1 != location }

def erase (disk : Disk) (location : Location) : Disk :=
  { disk with entries := disk.entries.filter fun e => !location.isPrefixOf e.1 }

/-- The disk without everything below a location. -/
def clear (disk : Disk) (location : Location) : Disk :=
  { disk with
    entries := disk.entries.filter fun e => !(location.isPrefixOf e.1 && location != e.1) }

/-! ## Resolving paths -/

def nameLimit : Nat := 255

/-- The number of links followed for one path. -/
def linkLimit : Nat := 40

/-- The non-empty runs between the slashes of a path. -/
def runs (octets : Bytes) : List Bytes := (octets.splitOn slash).filter (· ≠ [])

def endsInSlash (octets : Bytes) : Bool := octets.getLast? == some slash

/-- The names that a path is resolved by: a final slash asks for a directory, as `.` does. -/
def names (octets : Bytes) : List Bytes :=
  if endsInSlash octets then runs octets ++ [dotName] else runs octets

/-- Where a path starts: at the root, or at another location. -/
def origin (octets : Bytes) (base : Location) : Location :=
  if octets.head? = some slash then [] else base

/-- Names resolved from a location. `onLink` resolves the names that a link stands for; `final`
tells whether a link at the end is followed. -/
def walkNames (disk : Disk) (onLink : Location → List Bytes → Except IoFault Landing)
    (final : Bool) : Location → List Bytes → Except IoFault Landing
  | base, [] => .ok (.found base)
  | base, name :: rest =>
    match disk.node? base with
    | none => .error .noEntry
    | some here =>
      if !here.isDirectory then .error .notDirectory
      else if name = dotName then disk.walkNames onLink final base rest
      else if name = dotDotName then disk.walkNames onLink final base.dropLast rest
      else if nameLimit < name.length then .error .nameTooLong
      else
        match disk.node? (base ++ [name]) with
        | none => if rest = [] then .ok (.vacant (base ++ [name])) else .error .noEntry
        | some (.link target) =>
          if rest = [] ∧ final = false then .ok (.found (base ++ [name]))
          else onLink (origin target base) (names target ++ rest)
        | some _ => disk.walkNames onLink final (base ++ [name]) rest

/-- Names resolved through at most `links` links. -/
def walkWithin (disk : Disk) (final : Bool) : Nat → Location → List Bytes → Except IoFault Landing
  | 0 => disk.walkNames (fun _ _ => .error .linkLoop) final
  | links + 1 => disk.walkNames (disk.walkWithin final links) final

/-- Names resolved from the start of a path. -/
def walk (disk : Disk) (final : Bool) (octets : Bytes) (path : List Bytes) :
    Except IoFault Landing :=
  disk.walkWithin final linkLimit (origin octets disk.workingDirectory) path

/-- A path that no operation accepts: one with a NUL, or the empty one. -/
def refused? (path : Path) : Option IoFault :=
  if path.octets.contains 0 then some .nulInName
  else if path.octets = [] then some .noEntry
  else none

def resolve (disk : Disk) (final : Bool) (path : Path) : Except IoFault Landing :=
  match refused? path with
  | some fault => .error fault
  | none => disk.walk final path.octets (names path.octets)

/-- The entry that a path leads to, links followed. -/
def locate (disk : Disk) (path : Path) : Except IoFault (Location × Node) :=
  match disk.resolve true path with
  | .error fault => .error fault
  | .ok (.vacant _) => .error .noEntry
  | .ok (.found location) =>
    match disk.node? location with
    | some node => .ok (location, node)
    | none => .error .noEntry

/-! ## Looking -/

def pathExists (disk : Disk) (path : Path) : Bool := (disk.locate path).isOk

def isDirectory (disk : Disk) (path : Path) : Bool :=
  match disk.locate path with
  | .ok (_, node) => node.isDirectory
  | .error _ => false

def read (disk : Disk) (path : Path) : Except IoFault Bytes :=
  match disk.locate path with
  | .error fault => .error fault
  | .ok (_, .file data _) => .ok data
  | .ok _ => .error .isDirectory

def readText (disk : Disk) (path : Path) : Except IoFault String :=
  match disk.read path with
  | .error fault => .error fault
  | .ok data =>
    match Utf8.decode? data with
    | some text => .ok text
    | none => .error .notUtf8

/-! ## Writing -/

/-- Whether the last name of a path can only be a directory's. -/
def namesDirectory (octets : Bytes) : Bool :=
  endsInSlash octets ||
    match (runs octets).getLast? with
    | some name => name == dotName || name == dotDotName
    | none => true

/-- The location that a file is written at, be it there already or not. -/
def writable (disk : Disk) (path : Path) : Except IoFault Location :=
  match refused? path with
  | some fault => .error fault
  | none =>
    if namesDirectory path.octets then
      match disk.walk true path.octets ((runs path.octets).dropLast ++ [dotName]) with
      | .error fault => .error fault
      | .ok _ => .error .isDirectory
    else
      match disk.walk true path.octets (runs path.octets) with
      | .error fault => .error fault
      | .ok (.vacant location) => .ok location
      | .ok (.found location) =>
        match disk.node? location with
        | some (.file ..) => .ok location
        | _ => .error .isDirectory

/-- The content and the mode of the file at a location; a file that is not there is empty. -/
def fileAt (disk : Disk) (location : Location) : Bytes × Bool :=
  match disk.node? location with
  | some (.file data executable) => (data, executable)
  | _ => ([], false)

/-- What goes wrong the next time, if anything does. -/
def mishap? (disk : Disk) : Option Mishap := disk.mishaps.head?.join

/-- The disk with one mishap behind it. -/
def later (disk : Disk) : Disk := { disk with mishaps := disk.mishaps.tail }

/-- Opens a file for writing, emptied or at its end. One that is not there is made. -/
def openFile (disk : Disk) (path : Path) (emptied : Bool) : Except IoFault Location × Disk :=
  match disk.writable path with
  | .error fault => (.error fault, disk)
  | .ok location =>
    match disk.mishap? with
    | some mishap => (.error mishap.fault, disk.later)
    | none =>
      let old := disk.fileAt location
      (.ok location, disk.later.put location (.file (if emptied then [] else old.1) old.2))

/-- Writes octets at the end of an open file. Where that goes wrong, some of them have been written,
but not the last one. -/
def writeAll (disk : Disk) (location : Location) (data : Bytes) : Except IoFault Unit × Disk :=
  let old := disk.fileAt location
  let written (more : Bytes) : Disk := disk.later.put location (.file (old.1 ++ more) old.2)
  if data = [] then (.ok (), disk)
  else
    match disk.mishap? with
    | some mishap => (.error mishap.fault, written (data.dropLast.take mishap.kept))
    | none => (.ok (), written data)

def store (disk : Disk) (path : Path) (emptied : Bool) (data : Bytes) :
    Except IoFault Unit × Disk :=
  match disk.openFile path emptied with
  | (.error fault, after) => (.error fault, after)
  | (.ok location, opened) => opened.writeAll location data

/-- Replaces the content of a file. -/
def write (disk : Disk) (path : Path) (data : Bytes) : Except IoFault Unit × Disk :=
  disk.store path true data

/-- Adds octets to the end of a file. -/
def append (disk : Disk) (path : Path) (data : Bytes) : Except IoFault Unit × Disk :=
  disk.store path false data

def makeExecutable (disk : Disk) (path : Path) : Disk :=
  match disk.locate path with
  | .ok (location, .file data _) => disk.put location (.file data true)
  | _ => disk

/-! ## Directories -/

/-- The free location that a new entry is made at. -/
def free (disk : Disk) (path : Path) : Except IoFault Location :=
  match refused? path with
  | some fault => .error fault
  | none =>
    match (runs path.octets).getLast? with
    | none => .error .alreadyThere
    | some last =>
      if last = dotName ∨ last = dotDotName then
        match disk.walk true path.octets ((runs path.octets).dropLast ++ [dotName]) with
        | .error fault => .error fault
        | .ok _ => .error .alreadyThere
      else
        match disk.walk false path.octets (runs path.octets) with
        | .error fault => .error fault
        | .ok (.found _) => .error .alreadyThere
        | .ok (.vacant location) => .ok location

def makeDirectory (disk : Disk) (path : Path) : Except IoFault Disk :=
  match disk.free path with
  | .error fault => .error fault
  | .ok location => .ok (disk.put location .directory)

/-- The disk with a directory and, within `fuel` steps up, the directories above it. What was
made before a failure stays. -/
def makeDirectoriesWithin (disk : Disk) : Nat → Path → Except IoFault Unit × Disk
  | 0, _ => (.error .noEntry, disk)
  | fuel + 1, path =>
    if path.octets = [] then (.ok (), disk)
    else
      match disk.makeDirectory path with
      | .ok made => (.ok (), made)
      | .error .noEntry =>
        match path.parent? with
        | none => (.error (.other "failed to create whole tree"), disk)
        | some parent =>
          match disk.makeDirectoriesWithin fuel parent with
          | (.error fault, made) => (.error fault, made)
          | (.ok (), made) =>
            match made.makeDirectory path with
            | .ok done => (.ok (), done)
            | .error fault => if made.isDirectory path then (.ok (), made) else (.error fault, made)
      | .error fault => if disk.isDirectory path then (.ok (), disk) else (.error fault, disk)

/-- The disk with a directory and all directories above it. -/
def makeDirectories (disk : Disk) (path : Path) : Except IoFault Unit × Disk :=
  disk.makeDirectoriesWithin (path.octets.length + 1) path

/-- The disk without the entry that a path names; a link is removed, not what it leads to. A
directory that is named by `.` or `..` is emptied and stays. -/
def remove (disk : Disk) (path : Path) : Disk :=
  match disk.resolve false path with
  | .ok (.found location) =>
    match (runs path.octets).getLast? with
    | some last =>
      if last = dotName ∨ last = dotDotName then disk.clear location else disk.erase location
    | none => disk.clear location
  | _ => disk

/-- The disk without the directory that a path names, or without the link; a file stays. -/
def removeDirectory (disk : Disk) (path : Path) : Disk :=
  match disk.resolve false path with
  | .ok (.found location) =>
    match disk.node? location with
    | some (.file ..) => disk
    | _ => disk.remove path
  | _ => disk

end Disk

end ToolBootstrap
