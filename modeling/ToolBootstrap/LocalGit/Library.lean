import ToolBootstrap.Git
import ToolBootstrap.LocalGit.Revision

/- A git library for local repositories.

   A clone is made from a path or a file URL. The directory and those above it are made before the
   source is looked at. A clone has a branch for the head of its source, the source's branches as
   branches of the remote `origin`, and all tags. Its repository is kept in a directory of its
   own. -/

namespace ToolBootstrap.LocalGit

open Repository

/-- The name of the directory in which a checkout keeps its repository. -/
def repositoryName : Bytes := Utf8.encode ".git"

/-- Why a repository could not be cloned. -/
inductive CloneFault where
  | nulInText
  | directoryExists (path : Path)
  | cannotStat (path : Path) (fault : IoFault)
  | cannotMake (path : Path) (fault : IoFault)
  | emptySource
  | unknownProtocol
  | badFileUrl (url : String)
  | cannotResolve (path : Path) (fault : IoFault)
  | noRepository (path : Path)
  deriving DecidableEq, Repr

/-- The wording of an operating system's fault without its number. -/
def shortMessage : IoFault → String
  | .noEntry => "No such file or directory"
  | .alreadyThere => "File exists"
  | .notDirectory => "Not a directory"
  | .isDirectory => "Is a directory"
  | .nameTooLong => "File name too long"
  | .linkLoop => "Too many levels of symbolic links"
  | fault => fault.message

def CloneFault.message : CloneFault → String
  | .nulInText => "data contained a nul byte that could not be represented as a string"
  | .directoryExists path => "failed to make directory '" ++ path.display ++ "': directory exists"
  | .cannotStat path fault =>
    "failed to stat '" ++ path.display ++ "': " ++ shortMessage fault
  | .cannotMake path fault =>
    "failed to make directory '" ++ path.display ++ "': " ++ shortMessage fault
  | .emptySource => "cannot set empty URL"
  | .unknownProtocol => "unsupported URL protocol"
  | .badFileUrl url => "'" ++ url ++ "' is not a valid local file URI"
  | .cannotResolve path fault =>
    "failed to resolve path '" ++ path.display ++ "': " ++ shortMessage fault
  | .noRepository path => "could not find repository at '" ++ path.display ++ "'"

/-! ## The source -/

def hexValue? (b : UInt8) : Option UInt8 :=
  if 0x30 ≤ b ∧ b ≤ 0x39 then some (b - 0x30)
  else if 0x61 ≤ b ∧ b ≤ 0x66 then some (b - 0x61 + 10)
  else if 0x41 ≤ b ∧ b ≤ 0x46 then some (b - 0x41 + 10)
  else none

/-- Octets with `%` and two hexadecimal digits replaced by what they number. -/
def percentDecoded : Bytes → Bytes
  | 0x25 :: a :: b :: rest =>
    match hexValue? a, hexValue? b with
    | some x, some y => (x * 16 + y) :: percentDecoded rest
    | _, _ => 0x25 :: percentDecoded (a :: b :: rest)
  | b :: rest => b :: percentDecoded rest
  | [] => []

def fileScheme : List Char := "file://".toList

/-- The path of a local file URL, which has no host or the host `localhost`. -/
def urlPath? (url : List Char) : Option Path :=
  let rest := url.drop fileScheme.length
  let local? :=
    if rest.head? = some '/' then some rest
    else if "localhost/".toList.isPrefixOf rest then some (rest.drop "localhost".length)
    else none
  local?.map fun cs => ⟨percentDecoded (Utf8.encodeChars cs)⟩

/-- The repository of a checkout, or the repository directory itself. -/
def repositoryAt? (disk : Disk) (path : Path) : Option Repository :=
  match disk.locate path with
  | .ok (_, .repository r) => some r
  | _ =>
    match disk.locate (path.join ⟨repositoryName⟩) with
    | .ok (_, .repository r) => some r
    | _ => none

/-- The repository at a source: a file URL, or the path of a directory. -/
def openSource (disk : Disk) (url : String) : Except CloneFault Repository :=
  if url.isEmpty then .error .emptySource
  else if fileScheme.isPrefixOf url.toList then
    match urlPath? url.toList with
    | none => .error (.badFileUrl url)
    | some path =>
      match disk.locate path with
      | .error fault => .error (.cannotResolve path fault)
      | .ok _ =>
        match repositoryAt? disk path with
        | some r => .ok r
        | none => .error (.noRepository path)
  else
    let path := Path.ofText url
    if disk.isDirectory path then
      match repositoryAt? disk path with
      | some r => .ok r
      | none => .error (.noRepository path)
    else .error .unknownProtocol

/-! ## The clone -/

/-- What a reference of the source becomes in a clone: a branch becomes one of the remote's. -/
def clonedReference? (r : Repository) (x : String × Reference) : Option (String × Reference) :=
  let name := x.1.toList
  let heads := "refs/heads/".toList
  (r.follow x.2).bind fun id =>
    if heads.isPrefixOf name then
      some ("refs/remotes/origin/" ++ String.ofList (name.drop heads.length), .direct id)
    else if "refs/tags/".toList.isPrefixOf name then some (x.1, .direct id)
    else none

/-- The branch that the head of a repository is on: that of its name, or one at the same object. -/
def headBranch? (r : Repository) : Option String :=
  match r.head with
  | .symbolic name => some name
  | .direct id =>
    let isBranch (x : String × Reference) : Bool :=
      "refs/heads/".toList.isPrefixOf x.1.toList && r.follow x.2 == some id
    (r.references.find? isBranch).map Prod.fst

def cloned (r : Repository) : Repository :=
  let references := r.references.filterMap (clonedReference? r)
  match r.headId?, headBranch? r with
  | none, _ => { r with references := references }
  | some id, none => { r with references := references, head := .direct id }
  | some id, some full =>
    let short := String.ofList (full.toList.drop "refs/heads/".length)
    { r with
      references := references ++ [(full, .direct id),
        ("refs/remotes/origin/HEAD", .symbolic ("refs/remotes/origin/" ++ short))]
      head := .symbolic full }

/-! ## The work tree -/

/-- The disk with the files of a snapshot below a location, and the directories they need. -/
def putFiles (disk : Disk) (base : Location) (files : Snapshot) : Disk :=
  files.foldl
    (fun disk file =>
      let parts := file.1.splitOn slash
      let directories := (List.range (parts.length - 1)).map fun n => base ++ parts.take (n + 1)
      let made := directories.foldl (fun d l => d.put l .directory) disk
      made.put (base ++ parts) (.file file.2 false))
    disk

def repositoryLocation (base : Location) : Location := base ++ [repositoryName]

/-- The disk with the files of a snapshot as the work tree at a location, and its repository. -/
def putCheckout (disk : Disk) (base : Location) (r : Repository) (files : Snapshot) : Disk :=
  (putFiles (disk.clear base) base files).put (repositoryLocation base) (.repository r)

/-- The disk with the directory for a clone made, and what stopped it if it could not be. -/
def prepareDirectory (disk : Disk) (dir : Path) : Except CloneFault Unit × Disk :=
  let parent := dir.parentOrSelf
  if parent.octets ≠ [] ∧ disk.pathExists parent ∧ disk.isDirectory parent = false then
    (.error (.directoryExists parent), disk)
  else
    match disk.makeDirectories parent with
    | (.error .notDirectory, made) => (.error (.cannotStat parent .notDirectory), made)
    | (.error fault, made) => (.error (.cannotMake parent fault), made)
    | (.ok (), made) =>
      match made.makeDirectories dir with
      | (.error .alreadyThere, done) => (.error (.cannotMake dir .noEntry), done)
      | (.error fault, done) => (.error (.cannotMake dir fault), done)
      | (.ok (), done) => (.ok (), done)

/-! ## The library -/

/-- Clones a repository into a directory. What had been made when that fails is still there. -/
def clone (url : String) (dir : Path) (disk : Disk) : Except String Location × Disk :=
  if url.toList.contains '\x00' ∨ dir.octets.contains 0 then
    (.error CloneFault.nulInText.message, disk)
  else
    match prepareDirectory disk dir with
    | (.error fault, made) => (.error fault.message, made)
    | (.ok (), made) =>
      match openSource made url with
      | .error fault => (.error fault.message, made)
      | .ok source =>
        let copy := cloned source
        let base := made.locationOf dir
        (.ok base, putCheckout made base copy ((copy.headId?.map copy.filesOf).getD []))

/-- The repository of a work tree. -/
def kept? (base : Location) (disk : Disk) : Option Repository :=
  match disk.node? (repositoryLocation base) with
  | some (.repository r) => some r
  | _ => none

def lostMessage : String := "could not find repository"

def revparse (base : Location) (revision : String) (disk : Disk) : Except String Target :=
  if revision.toList.contains '\x00' then .error CloneFault.nulInText.message
  else
    match kept? base disk with
    | none => .error lostMessage
    | some r => (resolve r revision).mapError (RevisionFault.message revision)

def peel (base : Location) (target : Target) (disk : Disk) : Except String ObjectId :=
  match kept? base disk with
  | none => .error lostMessage
  | some r =>
    match peelTo r .commit target with
    | .ok (.object id) => .ok id
    | .ok other => .error (RevisionFault.message "" (.unpeelable other .commit))
    | .error fault => .error (fault.message "")

/-- Puts the files of a commit in the place of everything that the work tree holds. -/
def checkout (base : Location) (id : ObjectId) (disk : Disk) : Except String Unit × Disk :=
  match kept? base disk with
  | none => (.error lostMessage, disk)
  | some r => (.ok (), putCheckout disk base r (r.filesOf id))

def detach (base : Location) (id : ObjectId) (disk : Disk) : Except String Unit × Disk :=
  match kept? base disk with
  | none => (.error lostMessage, disk)
  | some r =>
    (.ok (), disk.put (repositoryLocation base) (.repository { r with head := .direct id }))

def detachedHead? (base : Location) (disk : Disk) : Option ObjectId :=
  match (kept? base disk).map Repository.head with
  | some (.direct id) => some id
  | _ => none

/-- The library for local repositories. -/
def library : Git :=
  { Object := Target
    Commit := ObjectId
    clone := clone
    revparse := revparse
    peel := peel
    checkout := checkout
    detach := detach
    detachedHead? := detachedHead? }

end ToolBootstrap.LocalGit
