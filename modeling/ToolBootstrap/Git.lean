import ToolBootstrap.Disk

/- The git library.

   Repositories are cloned, looked up and checked out by a library, which is a parameter. What can
   be said of every run can be said for any library. What a run does to the disk depends on what the
   library does to it, and that is known by what it promises: a clone is made in one place, with the
   missing directories above it, and everything else that it does to a repository stays at that
   place. -/

namespace ToolBootstrap

namespace Disk

/-! ## Making a place -/

/-- Makes a directory for a clone, after the directories above it. -/
def makePlace (disk : Disk) (dir : Path) : Except IoFault Unit × Disk :=
  match disk.makeDirectories dir.parentOrSelf with
  | (.error fault, made) => (.error fault, made)
  | (.ok (), made) => made.makeDirectories dir

/-- The location of a directory that has been made; the empty path is the working directory. -/
def locationOf (disk : Disk) (dir : Path) : Location :=
  match disk.locate dir with
  | .ok (location, _) => location
  | .error _ => disk.workingDirectory

/-! ## What stays the same -/

/-- The same stands at every location. -/
def SameNodes (disk after : Disk) : Prop :=
  after.workingDirectory = disk.workingDirectory ∧ ∀ l, after.node? l = disk.node? l

/-- The same stands at every location that is neither a certain one nor below it. -/
def SameBeside (base : Location) (disk after : Disk) : Prop :=
  after.workingDirectory = disk.workingDirectory ∧
    ∀ l, ¬ base <+: l → after.node? l = disk.node? l

/-- The same stands at every location but those below a certain one. -/
def SameAbove (base : Location) (disk after : Disk) : Prop :=
  SameBeside base disk after ∧ after.node? base = disk.node? base

end Disk

/-- A git library. A repository is known by the location of its work tree, and a function that fails
tells why. -/
structure Git where
  Object : Type
  Commit : Type
  /-- Clones from a URL into a directory. -/
  clone : String → Path → Disk → Except String Location × Disk
  /-- The object that a revision names. -/
  revparse : Location → String → Disk → Except String Object
  /-- The commit that an object leads to. -/
  peel : Location → Object → Disk → Except String Commit
  /-- Puts the files of a commit into the work tree. -/
  checkout : Location → Commit → Disk → Except String Unit × Disk
  /-- Moves the head to a commit, off any branch. -/
  detach : Location → Commit → Disk → Except String Unit × Disk
  /-- The commit that the head is at, if it is on no branch. -/
  detachedHead? : Location → Disk → Option Commit

namespace Git

open Disk

/-! ## Pinned versions -/

def tagName (version : String) : String := "refs/tags/" ++ version

/-- The object that a version names: the tag of that name where there is one, and otherwise whatever
it means as a revision. -/
def named (git : Git) (base : Location) (version : String) (disk : Disk) :
    Except String git.Object :=
  match git.revparse base (tagName version) disk with
  | .ok object => .ok object
  | .error _ => git.revparse base version disk

/-- The commit that a version names. A tag that leads to no commit is not passed over. -/
def pinned (git : Git) (base : Location) (version : String) (disk : Disk) :
    Except String git.Commit :=
  match git.named base version disk with
  | .ok object => git.peel base object disk
  | .error message => .error message

/-! ## What a library promises -/

/-- How far a clone has come when it fails: it has made nothing, or directories above its place, or
not quite its place, or it has begun. Then the place is still a directory, or is gone again. -/
inductive Reached (disk : Disk) (dir : Path) (after : Disk) : Prop where
  | untouched : SameNodes disk after → Reached disk dir after
  | above : SameNodes (disk.makeDirectories dir.parentOrSelf).2 after → Reached disk dir after
  | unmade {fault : IoFault} {made : Disk} : disk.makePlace dir = (.error fault, made) →
      SameNodes made after → Reached disk dir after
  | begun {made : Disk} : disk.makePlace dir = (.ok (), made) →
      SameAbove (made.locationOf dir) made after → Reached disk dir after
  | gone {made : Disk} : disk.makePlace dir = (.ok (), made) →
      SameBeside (made.locationOf dir) made after →
      (∀ l, made.locationOf dir <+: l → after.node? l = none) → Reached disk dir after

/-- What a library promises of its functions. -/
structure Lawful (git : Git) : Prop where
  clone_error {url : String} {dir : Path} {disk after : Disk} {message : String} :
    git.clone url dir disk = (.error message, after) → Reached disk dir after
  clone_ok {url : String} {dir : Path} {disk after : Disk} {base : Location} :
    git.clone url dir disk = (.ok base, after) →
      ∃ made, disk.makePlace dir = (.ok (), made) ∧ base = made.locationOf dir ∧
        SameAbove base made after
  checkout_above (base : Location) (commit : git.Commit) (disk : Disk) :
    SameAbove base disk (git.checkout base commit disk).2
  detach_above (base : Location) (commit : git.Commit) (disk : Disk) :
    SameAbove base disk (git.detach base commit disk).2
  detach_head {base : Location} {commit : git.Commit} {disk after : Disk} :
    git.detach base commit disk = (.ok (), after) → git.detachedHead? base after = some commit
  /-- The head of a repository is kept below its work tree. -/
  head_below {base : Location} {disk after : Disk} :
    (∀ l, base <+: l → after.node? l = disk.node? l) →
      git.detachedHead? base after = git.detachedHead? base disk

end Git

end ToolBootstrap
