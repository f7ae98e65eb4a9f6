import ToolBootstrap.LocalGit.Library
import ToolBootstrap.Proofs.Checkout

/- The library for local repositories keeps what a git library promises.

   It makes a place for a clone before it looks at the source, and leaves the place where the source
   is not found. What it puts into a work tree is put below the location of the work tree, and so is
   the repository with its head (`library_lawful`). -/

namespace ToolBootstrap.LocalGit

open Disk Repository

/-! ## The place of a clone -/

/-- The directory of a clone is made as any place is. -/
theorem prepareDirectory_ok {disk made : Disk} {dir : Path}
    (h : prepareDirectory disk dir = (.ok (), made)) : disk.makePlace dir = (.ok (), made) := by
  unfold prepareDirectory at h
  dsimp only at h
  split at h
  · cases h
  unfold makePlace
  rcases hparent : disk.makeDirectories dir.parentOrSelf with ⟨fault | done, middle⟩
  · rw [hparent] at h
    cases fault <;> cases h
  · rw [hparent] at h
    dsimp only at h ⊢
    rcases hdir : middle.makeDirectories dir with ⟨fault | done, last⟩
    · rw [hdir] at h
      cases fault <;> cases h
    · rw [hdir] at h
      cases h
      rfl

theorem prepareDirectory_error {disk made : Disk} {dir : Path} {fault : CloneFault}
    (h : prepareDirectory disk dir = (.error fault, made)) : Git.Reached disk dir made := by
  unfold prepareDirectory at h
  dsimp only at h
  split at h
  · cases h
    exact .untouched (.refl disk)
  rcases hparent : disk.makeDirectories dir.parentOrSelf with ⟨stopped | done, middle⟩
  · have habove : SameNodes (disk.makeDirectories dir.parentOrSelf).2 middle := by
      rw [hparent]
      exact .refl middle
    rw [hparent] at h
    cases stopped <;> cases h <;> exact .above habove
  · rw [hparent] at h
    dsimp only at h
    rcases hdir : middle.makeDirectories dir with ⟨stopped | done, last⟩
    · have hmade : disk.makePlace dir = (.error stopped, last) := by
        unfold makePlace
        rw [hparent]
        exact hdir
      rw [hdir] at h
      cases stopped <;> cases h <;> exact .unmade hmade (.refl made)
    · rw [hdir] at h
      cases h

/-! ## The work tree -/

theorem put_sameAbove (base : Location) (disk : Disk) {below : Location} (node : Node)
    (h : below ≠ []) : SameAbove base disk (disk.put (base ++ below) node) := by
  refine ⟨⟨rfl, fun l hl => node?_put_of_ne disk node ?_⟩, node?_put_of_ne disk node ?_⟩
  · intro he
    subst he
    exact hl (List.prefix_append base below)
  · simpa using h

theorem clear_sameAbove (base : Location) (disk : Disk) :
    SameAbove base disk (disk.clear base) :=
  ⟨⟨rfl, fun _ hl => node?_clear_of_not_prefix disk hl⟩, node?_clear_self disk base⟩

theorem putDirectories_sameAbove (base : Location) {names : List Location}
    (h : ∀ below ∈ names, below ≠ []) (disk : Disk) :
    SameAbove base disk
      ((names.map fun below => base ++ below).foldl (fun d l => d.put l .directory) disk) := by
  induction names generalizing disk with
  | nil => exact .refl base disk
  | cons below rest ih =>
    have hfirst := put_sameAbove base disk .directory (h below List.mem_cons_self)
    exact hfirst.trans (ih (fun other hother => h other (List.mem_cons_of_mem below hother)) _)

theorem putFiles_sameAbove (base : Location) (files : Snapshot) (disk : Disk) :
    SameAbove base disk (putFiles disk base files) := by
  unfold putFiles
  induction files generalizing disk with
  | nil => exact .refl base disk
  | cons file rest ih =>
    have hparts : file.1.splitOn slash ≠ [] := List.splitOn_ne_nil slash file.1
    have habove : ∀ below ∈ (List.range ((file.1.splitOn slash).length - 1)).map
        fun n => (file.1.splitOn slash).take (n + 1), below ≠ [] := by
      intro below hbelow
      obtain ⟨n, _, rfl⟩ := List.mem_map.mp hbelow
      exact fun hnil => hparts ((List.take_eq_nil_iff.mp hnil).resolve_left (Nat.succ_ne_zero n))
    have hnames := putDirectories_sameAbove base habove disk
    rw [List.map_map] at hnames
    rw [List.foldl_cons]
    exact (hnames.trans (put_sameAbove base _ _ hparts)).trans (ih _)

theorem putCheckout_sameAbove (disk : Disk) (base : Location) (r : Repository) (files : Snapshot) :
    SameAbove base disk (putCheckout disk base r files) := by
  have hfiles := (clear_sameAbove base disk).trans (putFiles_sameAbove base files (disk.clear base))
  exact hfiles.trans (put_sameAbove base _ _ (List.cons_ne_nil _ _))

/-! ## The library -/

theorem clone_reached {url message : String} {dir : Path} {disk after : Disk}
    (h : clone url dir disk = (.error message, after)) : Git.Reached disk dir after := by
  unfold clone at h
  split at h
  · cases h
    exact .untouched (.refl disk)
  split at h
  · rename_i hprepared
    cases h
    exact prepareDirectory_error hprepared
  · rename_i made hprepared
    split at h
    · cases h
      exact .begun (prepareDirectory_ok hprepared) (.refl _ after)
    · cases h

theorem clone_places {url : String} {dir : Path} {disk after : Disk} {base : Location}
    (h : clone url dir disk = (.ok base, after)) :
    ∃ made, disk.makePlace dir = (.ok (), made) ∧ base = made.locationOf dir ∧
      SameAbove base made after := by
  unfold clone at h
  split at h
  · cases h
  split at h
  · cases h
  · rename_i made hprepared
    split at h
    · cases h
    · cases h
      exact ⟨made, prepareDirectory_ok hprepared, rfl, putCheckout_sameAbove made _ _ _⟩

theorem checkout_sameAbove (base : Location) (id : ObjectId) (disk : Disk) :
    SameAbove base disk (checkout base id disk).2 := by
  unfold checkout
  split
  · exact .refl base disk
  · exact putCheckout_sameAbove disk base _ _

theorem detach_sameAbove (base : Location) (id : ObjectId) (disk : Disk) :
    SameAbove base disk (detach base id disk).2 := by
  unfold detach
  split
  · exact .refl base disk
  · exact put_sameAbove base disk _ (List.cons_ne_nil _ _)

theorem detachedHead?_detach {base : Location} {id : ObjectId} {disk after : Disk}
    (h : detach base id disk = (.ok (), after)) : detachedHead? base after = some id := by
  unfold detach at h
  split at h
  · cases h
  · cases h
    unfold detachedHead? kept?
    rw [node?_put_self _ _ (by simp [repositoryLocation])]
    rfl

theorem detachedHead?_same {base : Location} {disk after : Disk}
    (h : ∀ l, base <+: l → after.node? l = disk.node? l) :
    detachedHead? base after = detachedHead? base disk := by
  have hnode := h (repositoryLocation base) (List.prefix_append base [repositoryName])
  unfold detachedHead? kept?
  rw [hnode]

theorem library_lawful : library.Lawful where
  clone_error := clone_reached
  clone_ok := clone_places
  checkout_above := checkout_sameAbove
  detach_above := detach_sameAbove
  detach_head := detachedHead?_detach
  head_below := detachedHead?_same

/-! ## A sample -/

/-- A repository with one commit, which is tagged. -/
def taggedOnce : Repository :=
  { objects := [.commit [] [] "one"]
    references := [("refs/heads/main", .direct 0), ("refs/tags/v1", .direct 0)]
    head := .symbolic "refs/heads/main" }

/-- A disk with that repository in a directory, and with more entries. -/
def sourceDisk (more : List (Location × Node)) : Disk :=
  let source : Location := [Utf8.encode "src"]
  .ofEntries ([(source, .directory), (repositoryLocation source, .repository taggedOnce)] ++ more)

end ToolBootstrap.LocalGit
