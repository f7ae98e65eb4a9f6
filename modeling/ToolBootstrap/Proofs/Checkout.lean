import ToolBootstrap.Manager.Install
import ToolBootstrap.Proofs.Files

/- What installing the manager does to the rest of a disk.

   By what the git library promises, a clone is made at one place, and what is done to it afterwards
   stays there (`cloneAtTag_places`). It is discarded at the place to which its path leads then.
   Everything at or below these two places is what the manager `Occupies`. All other locations are
   kept (`ensureInstalled_keeps`): they are left alone, or a directory above the clone is made where
   nothing was. -/

namespace ToolBootstrap

namespace Disk

section Beside

variable {base : Location} {disk middle after : Disk}

theorem SameBeside.refl (base : Location) (disk : Disk) : SameBeside base disk disk :=
  ⟨rfl, fun _ _ => rfl⟩

theorem SameBeside.trans (h : SameBeside base disk middle) (h' : SameBeside base middle after) :
    SameBeside base disk after :=
  ⟨h'.1.trans h.1, fun l hl => (h'.2 l hl).trans (h.2 l hl)⟩

theorem SameAbove.refl (base : Location) (disk : Disk) : SameAbove base disk disk :=
  ⟨.refl base disk, rfl⟩

theorem SameAbove.trans (h : SameAbove base disk middle) (h' : SameAbove base middle after) :
    SameAbove base disk after :=
  ⟨h.1.trans h'.1, h'.2.trans h.2⟩

theorem SameNodes.extends (h : SameNodes disk after) : Extends disk after :=
  ⟨h.1, fun l => Or.inl (h.2 l)⟩

end Beside

theorem makePlace_extends (disk : Disk) (dir : Path) : Extends disk (disk.makePlace dir).2 := by
  have hparent := makeDirectories_extends disk dir.parentOrSelf
  unfold makePlace
  rcases hmade : disk.makeDirectories dir.parentOrSelf with ⟨fault | done, made⟩
  · rwa [hmade] at hparent
  · rw [hmade] at hparent
    exact hparent.trans (makeDirectories_extends made dir)

theorem remove_sameBeside (disk : Disk) (path : Path) {l : Location}
    (hl : ∀ base, disk.resolve false path = .ok (.found base) → ¬ base <+: l) :
    (disk.remove path).workingDirectory = disk.workingDirectory ∧
      (disk.remove path).node? l = disk.node? l := by
  unfold remove
  split
  · rename_i base hbase
    have hne := hl base hbase
    split
    · split
      · exact ⟨rfl, node?_clear_of_not_prefix disk hne⟩
      · exact ⟨rfl, node?_erase_of_not_prefix disk hne⟩
    · exact ⟨rfl, node?_clear_of_not_prefix disk hne⟩
  · exact ⟨rfl, rfl⟩

theorem removeDirectory_sameBeside (disk : Disk) (path : Path) {l : Location}
    (hl : ∀ base, disk.resolve false path = .ok (.found base) → ¬ base <+: l) :
    (disk.removeDirectory path).workingDirectory = disk.workingDirectory ∧
      (disk.removeDirectory path).node? l = disk.node? l := by
  unfold removeDirectory
  split
  · split
    · exact ⟨rfl, rfl⟩
    · exact remove_sameBeside disk path hl
  · exact ⟨rfl, rfl⟩

end Disk

open Disk

namespace Manager

variable {m : Manager} {git : Git} {disk : Disk}

/-! ## The clone -/

/-- A clone at a tag fails before there is a clone, or stays at the place that is made for it. -/
theorem cloneAtTag_places (hgit : git.Lawful) (m : Manager) (disk : Disk) :
    (∃ message after, m.cloneAtTag git disk = (.error message, after) ∧
        Git.Reached disk m.dir after) ∨
      ∃ made, disk.makePlace m.dir = (.ok (), made) ∧
        SameAbove (made.locationOf m.dir) made (m.cloneAtTag git disk).2 := by
  unfold cloneAtTag
  rcases hclone : git.clone m.repository m.dir disk with ⟨message | base, cloned⟩
  · exact Or.inl ⟨message, cloned, rfl, hgit.clone_error hclone⟩
  · obtain ⟨made, hmade, rfl, hcloned⟩ := hgit.clone_ok hclone
    refine Or.inr ⟨made, hmade, ?_⟩
    dsimp only
    cases git.pinned (made.locationOf m.dir) m.version cloned with
    | error message => exact hcloned
    | ok commit =>
      have hplaced := hcloned.trans (hgit.checkout_above (made.locationOf m.dir) commit cloned)
      dsimp only
      rcases hcheckout : git.checkout (made.locationOf m.dir) commit cloned
        with ⟨message | done, after⟩
      · rwa [hcheckout] at hplaced
      · rw [hcheckout] at hplaced
        exact hplaced.trans (hgit.detach_above (made.locationOf m.dir) commit after)

/-- The head of a clone at a tag is on the commit that the version names in the clone. -/
theorem cloneAtTag_pinned (hgit : git.Lawful) {after : Disk}
    (h : m.cloneAtTag git disk = (.ok (), after)) :
    ∃ base cloned commit, git.clone m.repository m.dir disk = (.ok base, cloned) ∧
      git.pinned base m.version cloned = .ok commit ∧
      git.detachedHead? base after = some commit := by
  unfold cloneAtTag at h
  split at h
  · cases h
  rename_i base cloned hclone
  split at h
  · cases h
  rename_i commit hpinned
  split at h
  · cases h
  · exact ⟨base, cloned, commit, hclone, hpinned, hgit.detach_head h⟩

theorem keeps_of_makePlace {result : Except IoFault Unit} {made after : Disk} {l : Location}
    (hmade : disk.makePlace m.dir = (result, made))
    (hwd : after.workingDirectory = made.workingDirectory) (hl : after.node? l = made.node? l) :
    after.workingDirectory = disk.workingDirectory ∧ Keeps disk after l := by
  have hextends := makePlace_extends disk m.dir
  rw [hmade] at hextends
  exact ⟨hwd.trans hextends.1, (hextends.2 l).trans (Or.inl hl)⟩

/-- However far a clone has come, it keeps what is not at or below the place that is made for it. -/
theorem keeps_of_reached {after : Disk} (h : Git.Reached disk m.dir after) {l : Location}
    (hl : ∀ made, disk.makePlace m.dir = (.ok (), made) → ¬ made.locationOf m.dir <+: l) :
    after.workingDirectory = disk.workingDirectory ∧ Keeps disk after l := by
  cases h with
  | untouched hsame => exact ⟨hsame.1, Or.inl (hsame.2 l)⟩
  | above hsame =>
    have hextends := (makeDirectories_extends disk m.dir.parentOrSelf).trans hsame.extends
    exact ⟨hextends.1, hextends.2 l⟩
  | unmade hmade hsame => exact keeps_of_makePlace hmade hsame.1 (hsame.2 l)
  | begun hmade hsame =>
    exact keeps_of_makePlace hmade hsame.1.1 (hsame.1.2 l (hl _ hmade))
  | gone hmade hsame _ => exact keeps_of_makePlace hmade hsame.1 (hsame.2 l (hl _ hmade))

theorem cloneAtTag_keeps (hgit : git.Lawful) (m : Manager) (disk : Disk) {l : Location}
    (hl : ∀ made, disk.makePlace m.dir = (.ok (), made) → ¬ made.locationOf m.dir <+: l) :
    (m.cloneAtTag git disk).2.workingDirectory = disk.workingDirectory ∧
      Keeps disk (m.cloneAtTag git disk).2 l := by
  rcases cloneAtTag_places hgit m disk with ⟨message, after, hclone, hreached⟩ |
    ⟨made, hmade, hsame⟩
  · rw [hclone]
    exact keeps_of_reached hreached hl
  · exact keeps_of_makePlace hmade hsame.1.1 (hsame.1.2 l (hl made hmade))

/-! ## The installation -/

/-- The locations that belong to the manager while it is installed: at or below the directory that
is made for the clone, or the one that is found at its path afterwards. -/
inductive Occupies (m : Manager) (git : Git) (disk : Disk) (l : Location) : Prop where
  | made {after : Disk} : disk.makePlace m.dir = (.ok (), after) →
      after.locationOf m.dir <+: l → Occupies m git disk l
  | found {base : Location} : (m.cloneAtTag git disk).2.resolve false m.dir = .ok (.found base) →
      base <+: l → Occupies m git disk l

theorem ensureInstalled_of_installed (git : Git) (h : m.isInstalled disk = true) :
    m.ensureInstalled git disk = (.ok .alreadyPresent, disk) := if_pos h

/-- Installing the manager keeps what the manager does not occupy. -/
theorem ensureInstalled_keeps (hgit : git.Lawful) (m : Manager) (disk : Disk) {l : Location}
    (hl : ¬ m.Occupies git disk l) :
    (m.ensureInstalled git disk).2.workingDirectory = disk.workingDirectory ∧
      Keeps disk (m.ensureInstalled git disk).2 l := by
  unfold ensureInstalled
  split
  · exact ⟨rfl, .refl disk l⟩
  have hclone := cloneAtTag_keeps hgit m disk (l := l)
    fun made hmade hbase => hl (.made hmade hbase)
  split
  · rename_i done hdone
    rwa [hdone] at hclone
  rename_i message made hmade
  rw [hmade] at hclone
  obtain ⟨hwd, hkeep⟩ := hclone
  show (m.discard made).workingDirectory = _ ∧ Keeps disk (m.discard made) l
  unfold discard
  split
  · obtain ⟨hwd', hnode⟩ := removeDirectory_sameBeside made m.dir (l := l) fun base hbase hpre =>
      hl (.found (by rw [hmade]; exact hbase) hpre)
    exact ⟨hwd'.trans hwd, hkeep.trans (Or.inl hnode)⟩
  · exact ⟨hwd, hkeep⟩

/-- A path is outside the manager: what it leads to is reached without anything that the manager
occupies, in a part of the disk. -/
def Spares (m : Manager) (git : Git) (disk : Disk) (path : Path) : Prop :=
  ∀ found, disk.locate path = .ok found → ∃ part : Disk, part.locate path = .ok found ∧
    part.workingDirectory = disk.workingDirectory ∧
    ∀ l node, part.node? l = some node → disk.node? l = some node ∧ ¬ m.Occupies git disk l

/-- What a path outside the manager leads to is found there after the manager is installed. -/
theorem ensureInstalled_locate (hgit : git.Lawful) {path : Path}
    (h : m.isInstalled disk = true ∨ m.Spares git disk path) {found : Location × Node}
    (hloc : disk.locate path = .ok found) :
    (m.ensureInstalled git disk).2.locate path = .ok found := by
  rcases h with hpresent | hspares
  · rw [ensureInstalled_of_installed git hpresent]
    exact hloc
  · obtain ⟨part, hpart, hwd, hnodes⟩ := hspares found hloc
    -- The part is kept as a whole, so the walk in it is a walk on the disk that is left.
    have hkeeps : ∀ l, part.node? l ≠ none →
        (m.ensureInstalled git disk).2.workingDirectory = disk.workingDirectory ∧
          Keeps part (m.ensureInstalled git disk).2 l := by
      intro l hl
      obtain ⟨node, hnode⟩ := Option.ne_none_iff_exists'.mp hl
      obtain ⟨hdisk, hfree⟩ := hnodes l node hnode
      obtain ⟨hwd', hkeep⟩ := ensureInstalled_keeps hgit m disk hfree
      refine ⟨hwd', ?_⟩
      rcases hkeep with hkeep | ⟨hnone, _⟩
      · exact Or.inl (hkeep.trans (hdisk.trans hnode.symm))
      · rw [hdisk] at hnone
        cases hnone
    have hroot := (hkeeps [] (by simp [node?_nil])).1
    exact locate_of_keeps (fun l hl => (hkeeps l hl).2) (hroot.trans hwd.symm) hpart

end Manager

end ToolBootstrap
