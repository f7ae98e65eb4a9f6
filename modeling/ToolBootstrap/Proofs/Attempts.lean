import Mathlib.Data.List.Chain
import ToolBootstrap.Proofs.LocalLibrary
import ToolBootstrap.Proofs.Places

/- Attempts to install the manager.

   One attempt on a directory that is not there either fails, and then nothing is there still and
   nothing that was there has changed, or it leaves a clone with its head on the commit that the
   version names (`ensureInstalled_attempted`). So over any sequence of attempts on one directory,
   whatever git library each of them uses and whatever happens to the repositories and to the rest
   of the disk in between, a directory that is taken as it is has been cloned by an earlier attempt
   and is still at the commit that was pinned then (`attempts_pinned`). -/

namespace ToolBootstrap

open Disk

/-! ## Pinned versions -/

namespace Git

variable {git : Git} {base : Location} {version : String} {disk : Disk}

/-- Where the tag resolves, nothing but the tag is looked at. -/
theorem pinned_of_tag {tag : git.Object}
    (h : git.revparse base (tagName version) disk = .ok tag) :
    git.pinned base version disk = git.peel base tag disk := by
  rw [pinned, named, h]

theorem pinned_of_no_tag (h : ∀ tag, git.revparse base (tagName version) disk ≠ .ok tag)
    {commit : git.Commit} (hpinned : git.pinned base version disk = .ok commit) :
    ∃ object, git.revparse base version disk = .ok object ∧
      git.peel base object disk = .ok commit := by
  unfold pinned named at hpinned
  cases htag : git.revparse base (tagName version) disk with
  | ok tag => exact absurd htag (h tag)
  | error message =>
    rw [htag] at hpinned
    dsimp only at hpinned
    split at hpinned
    · rename_i object hobject
      exact ⟨object, hobject, hpinned⟩
    · cases hpinned

end Git

namespace Manager

/-! ## One attempt -/

/-- What stands somewhere still stands there. -/
def Kept (disk after : Disk) : Prop :=
  ∀ l node, disk.node? l = some node → after.node? l = some node

/-- What an attempt on a directory that is not there comes to. -/
inductive Attempted (m : Manager) (git : Git) (disk : Disk) :
    Except Failure State → Disk → Prop where
  | failed {failure : Failure} {after : Disk} : after.pathExists m.dir = false → Kept disk after →
      Attempted m git disk (.error failure) after
  | cloned {base : Location} {clone after : Disk} {commit : git.Commit} :
      git.clone m.repository m.dir disk = (.ok base, clone) →
      git.pinned base m.version clone = .ok commit → git.detachedHead? base after = some commit →
      after.locate m.dir = .ok (base, .directory) → Kept disk after →
      Attempted m git disk (.ok .cloned) after

section Attempting

variable {m : Manager} {git : Git} {disk made after : Disk} {base : Location}

theorem kept_of_fresh (htree : disk.IsTree) (hextends : Extends disk made)
    (hfresh : Fresh disk made m.dir base) (hsame : SameBeside base made after) :
    Kept disk after := by
  intro l node hnode
  rw [hsame.2 l (htree.not_below hfresh.free hnode)]
  exact hextends.node hnode

/-- What has been put in a fresh directory goes with it when the clone is discarded. -/
theorem discard_spec (htree : disk.IsTree) (hextends : Extends disk made)
    (hfresh : Fresh disk made m.dir base) (hsame : SameAbove base made after) :
    (m.discard after).pathExists m.dir = false ∧ Kept disk (m.discard after) := by
  have hnames := hfresh.names_after hsame
  have hdiscard : m.discard after = after.erase base := by
    rw [discard, isInstalled, hnames.pathExists, if_pos rfl, hnames.removeDirectory]
  have herased : SameBeside base after (after.erase base) :=
    ⟨rfl, fun _ hl => node?_erase_of_not_prefix after hl⟩
  rw [hdiscard]
  exact ⟨hnames.gone herased fun _ => node?_erase_of_prefix after hfresh.ne_root,
    kept_of_fresh htree hextends hfresh (hsame.1.trans herased)⟩

theorem discard_of_absent (h : disk.pathExists m.dir = false) : m.discard disk = disk := by
  rw [discard, isInstalled, h]
  rfl

theorem fresh_of_makePlace (htree : disk.IsTree) (hne : m.dir.octets ≠ [])
    (hclear : (disk.makeDirectories m.dir.parentOrSelf).2.pathExists m.dir = false)
    (hmade : disk.makePlace m.dir = (.ok (), made)) :
    Fresh disk made m.dir (made.locationOf m.dir) := by
  rcases makePlace_cases htree hne hclear with ⟨made', base, hok, hfresh⟩ |
    ⟨fault, made', herror, -⟩
  · rw [hmade] at hok
    cases hok
    rwa [locationOf, hfresh.names.locate]
  · rw [hmade] at herror
    cases herror

/-- A clone that failed is not there once it is discarded, and has cost nothing. -/
theorem discard_of_reached (htree : disk.IsTree) (hne : m.dir.octets ≠ [])
    (habsent : disk.pathExists m.dir = false)
    (hclear : (disk.makeDirectories m.dir.parentOrSelf).2.pathExists m.dir = false)
    (h : Git.Reached disk m.dir after) :
    (m.discard after).pathExists m.dir = false ∧ Kept disk (m.discard after) := by
  have hgone : ∀ {made}, Extends disk made → made.pathExists m.dir = false →
      SameNodes made after →
      (m.discard after).pathExists m.dir = false ∧ Kept disk (m.discard after) := by
    intro made hextends hnot hsame
    have hnot' := (hsame.pathExists m.dir).trans hnot
    rw [discard_of_absent hnot']
    exact ⟨hnot', fun l node hnode => (hsame.2 l).trans (hextends.node hnode)⟩
  have hplace := makePlace_extends disk m.dir
  cases h with
  | untouched hsame => exact hgone (.refl disk) habsent hsame
  | above hsame => exact hgone (makeDirectories_extends disk m.dir.parentOrSelf) hclear hsame
  | unmade hmade hsame =>
    rw [hmade] at hplace
    rcases makePlace_cases htree hne hclear with ⟨_, _, hok, -⟩ | ⟨_, _, herror, hnot⟩
    · rw [hmade] at hok
      cases hok
    · rw [hmade] at herror
      cases herror
      exact hgone hplace hnot hsame
  | begun hmade hsame =>
    rw [hmade] at hplace
    exact discard_spec htree hplace (fresh_of_makePlace htree hne hclear hmade) hsame
  | gone hmade hsame hbelow =>
    rw [hmade] at hplace
    have hfresh := fresh_of_makePlace htree hne hclear hmade
    have hnot := hfresh.names.gone hsame hbelow
    rw [discard_of_absent hnot]
    exact ⟨hnot, kept_of_fresh htree hplace hfresh hsame⟩

/-- An attempt on a directory that is not there leaves a pinned clone or nothing. -/
theorem ensureInstalled_attempted (hgit : git.Lawful) (htree : disk.IsTree)
    (hne : m.dir.octets ≠ []) (hclear : Clear disk m.dir)
    (habsent : disk.pathExists m.dir = false) :
    Attempted m git disk (m.ensureInstalled git disk).1 (m.ensureInstalled git disk).2 := by
  have habove := hclear habsent
  unfold ensureInstalled
  rw [isInstalled, habsent, if_neg (by simp)]
  rcases cloneAtTag_places hgit m disk with ⟨message, after, hran, hreached⟩ | ⟨made, hmade, hsame⟩
  · rw [hran]
    obtain ⟨hgone, hkept⟩ := discard_of_reached htree hne habsent habove hreached
    exact .failed hgone hkept
  · have hplace := makePlace_extends disk m.dir
    rw [hmade] at hplace
    have hfresh := fresh_of_makePlace htree hne habove hmade
    rcases hran : m.cloneAtTag git disk with ⟨message | done, after⟩
    · rw [hran] at hsame
      obtain ⟨hgone, hkept⟩ := discard_spec htree hplace hfresh hsame
      exact .failed hgone hkept
    · rw [hran] at hsame
      obtain ⟨base, clone, commit, hclone, hpinned, hhead⟩ := cloneAtTag_pinned hgit hran
      obtain ⟨made', hmade', rfl, -⟩ := hgit.clone_ok hclone
      rw [hmade] at hmade'
      cases hmade'
      exact .cloned hclone hpinned hhead (hfresh.names_after hsame).locate
        (kept_of_fresh htree hplace hfresh hsame.1)

end Attempting

/-! ## Any number of attempts -/

/-- One of several attempts: the git library that it uses, the manager that is asked for, and the
disk it is asked for on. -/
structure Attempt where
  git : Git
  manager : Manager
  before : Disk

namespace Attempt

def result (a : Attempt) : Except Failure State := (a.manager.ensureInstalled a.git a.before).1

def after (a : Attempt) : Disk := (a.manager.ensureInstalled a.git a.before).2

def Present (a : Attempt) (disk : Disk) : Prop := disk.pathExists a.manager.dir = true

/-- The clone that an attempt begins with. -/
def Begins (a : Attempt) (base : Location) (clone : Disk) : Prop :=
  a.git.clone a.manager.repository a.manager.dir a.before = (.ok base, clone)

/-- The clone of an attempt, with its head off any branch and on a commit. The tag of the version
leads to this commit where it resolves, and otherwise whatever the version means does. -/
structure Clones (a : Attempt) (base : Location) (commit : a.git.Commit) : Prop where
  pins : ∃ clone, a.Begins base clone ∧
    (∀ tag, a.git.revparse base (Git.tagName a.manager.version) clone = .ok tag →
      a.git.peel base tag clone = .ok commit) ∧
    ((∀ tag, a.git.revparse base (Git.tagName a.manager.version) clone ≠ .ok tag) →
      ∃ object, a.git.revparse base a.manager.version clone = .ok object ∧
        a.git.peel base object clone = .ok commit)
  detached : a.git.detachedHead? base a.after = some commit
  located : a.after.locate a.manager.dir = .ok (base, .directory)

/-- What an attempt may do, and what it has done by what it reports. -/
structure Sound (a : Attempt) : Prop where
  present_iff : a.result = .ok .alreadyPresent ↔ a.Present a.before
  unchanged : a.result = .ok .alreadyPresent → a.after = a.before
  kept : ∀ l node, a.before.node? l = some node → a.after.node? l = some node
  failed : ∀ failure, a.result = .error failure → ¬ a.Present a.after
  cloned : a.result = .ok .cloned → a.Present a.after ∧ ∃ base commit, a.Clones base commit
  unpeelable : ¬ a.Present a.before → ∀ base clone tag, a.Begins base clone →
    a.git.revparse base (Git.tagName a.manager.version) clone = .ok tag →
    (∀ commit, a.git.peel base tag clone ≠ .ok commit) → ∃ failure, a.result = .error failure

theorem sound_of_present {a : Attempt} (h : a.Present a.before) : a.Sound := by
  have hran : a.manager.ensureInstalled a.git a.before = (.ok .alreadyPresent, a.before) :=
    ensureInstalled_of_installed a.git h
  have hresult : a.result = .ok .alreadyPresent := by rw [result, hran]
  have hafter : a.after = a.before := by rw [after, hran]
  refine ⟨iff_of_true hresult h, fun _ => hafter, ?_, ?_, ?_, fun hnot => absurd h hnot⟩
  · intro l node hnode
    rwa [hafter]
  · intro failure hfailure
    cases hresult.symm.trans hfailure
  · intro hcloned
    cases hresult.symm.trans hcloned

theorem sound_of_attempted {a : Attempt} (hnot : ¬ a.Present a.before)
    (h : Attempted a.manager a.git a.before a.result a.after) : a.Sound := by
  generalize hresult : a.result = result at h
  generalize hafter : a.after = after at h
  cases h with
  | @failed failure _ hgone hkept =>
    subst hafter
    refine ⟨?_, ?_, hkept, fun _ _ => ?_, ?_, fun _ _ _ _ _ _ _ => ⟨failure, hresult⟩⟩
    · rw [hresult]
      exact iff_of_false (by simp) hnot
    · intro hpresent
      cases hresult.symm.trans hpresent
    · simp [Present, hgone]
    · intro hcloned
      cases hresult.symm.trans hcloned
  | @cloned base clone _ commit hclone hpinned hhead hlocated hkept =>
    subst hafter
    have hthere : a.Present a.after := congrArg Except.isOk hlocated
    have htag : ∀ tag, a.git.revparse base (Git.tagName a.manager.version) clone = .ok tag →
        a.git.peel base tag clone = .ok commit :=
      fun tag htag => (Git.pinned_of_tag htag).symm.trans hpinned
    refine ⟨?_, ?_, hkept, ?_, fun _ => ⟨hthere, base, commit, ?_⟩, ?_⟩
    · rw [hresult]
      exact iff_of_false (by simp) hnot
    · intro hpresent
      cases hresult.symm.trans hpresent
    · intro failure hfailure
      cases hresult.symm.trans hfailure
    · exact ⟨⟨clone, hclone, htag, fun hnone => Git.pinned_of_no_tag hnone hpinned⟩,
        hhead, hlocated⟩
    · intro _ base' clone' tag hbegins hresolves hnone
      cases hclone.symm.trans hbegins
      exact absurd (htag tag hresolves) (hnone commit)

end Attempt

/-- An attempt on a directory of its own: with a lawful library, on a tree, and at a path that never
leads up, or is at least not brought into being by the directories above it. -/
structure Attempt.Proper (dir : Path) (a : Attempt) : Prop where
  lawful : a.git.Lawful
  sameDir : a.manager.dir = dir
  tree : a.before.IsTree
  clear : NeverUp dir ∨ Clear a.before dir

/-- Between two attempts nothing else touches the directory: its path leads where it led, and what
is at or below that place stands as it was left. -/
def Untouched (dir : Path) (left found : Disk) : Prop :=
  found.locate dir = left.locate dir ∧
    ∀ base node, left.locate dir = .ok (base, node) →
      ∀ l, base <+: l → found.node? l = left.node? l

theorem Untouched.pathExists {dir : Path} {left found : Disk} (h : Untouched dir left found) :
    found.pathExists dir = left.pathExists dir := congrArg Except.isOk h.1

theorem Attempt.Proper.sound {dir : Path} {a : Attempt} (h : a.Proper dir) (hne : dir.octets ≠ []) :
    a.Sound := by
  obtain ⟨hgit, rfl, htree, hclear⟩ := h
  by_cases hpresent : a.Present a.before
  · exact Attempt.sound_of_present hpresent
  · have habsent : a.before.pathExists a.manager.dir = false := by
      simpa [Attempt.Present] using hpresent
    have hclear' : Clear a.before a.manager.dir := hclear.elim (clear_of_neverUp htree) id
    exact Attempt.sound_of_attempted hpresent
      (ensureInstalled_attempted hgit htree hne hclear' habsent)

/-- A directory is not there, or it has been cloned by one of the attempts and is where that one has
pinned it. -/
inductive Held (dir : Path) (earlier : List Attempt) (disk : Disk) : Prop where
  | absent : disk.pathExists dir = false → Held dir earlier disk
  | cloned {a : Attempt} {base : Location} {commit : a.git.Commit} : a ∈ earlier → a.git.Lawful →
      a.result = .ok .cloned → a.Clones base commit → disk.locate dir = .ok (base, .directory) →
      a.git.detachedHead? base disk = some commit → Held dir earlier disk

theorem Held.untouched {dir : Path} {earlier : List Attempt} {left found : Disk}
    (h : Held dir earlier left) (hsame : Untouched dir left found) : Held dir earlier found := by
  cases h with
  | absent hgone => exact .absent (hsame.pathExists.trans hgone)
  | cloned ha hgit hcloned hclones hloc hhead =>
    obtain ⟨hlocate, hnodes⟩ := hsame
    have hkept := hgit.head_below (hnodes _ _ hloc)
    exact .cloned ha hgit hcloned hclones (hlocate.trans hloc) (hkept.trans hhead)

/-- One attempt keeps a directory held. -/
theorem Held.attempt {dir : Path} {earlier : List Attempt} {a : Attempt}
    (h : Held dir earlier a.before) (ha : a.Sound) (hgit : a.git.Lawful)
    (hdir : a.manager.dir = dir) : Held dir (earlier ++ [a]) a.after := by
  subst hdir
  cases hresult : a.result with
  | error failure => exact .absent (by simpa [Attempt.Present] using ha.failed failure hresult)
  | ok state =>
    cases state with
    | cloned =>
      obtain ⟨_, base, commit, hclones⟩ := ha.cloned hresult
      exact .cloned (by simp) hgit hresult hclones hclones.located hclones.detached
    | alreadyPresent =>
      rw [ha.unchanged hresult]
      cases h with
      | absent hgone => exact absurd (ha.present_iff.mp hresult) (by simp [Attempt.Present, hgone])
      | cloned hb hlawful hcloned hclones hloc hhead =>
        exact .cloned (List.mem_append_left _ hb) hlawful hcloned hclones hloc hhead

theorem Held.attempts {dir : Path} (hne : dir.octets ≠ []) {front back earlier : List Attempt}
    {a : Attempt} (hproper : ∀ b ∈ front ++ a :: back, b.Proper dir)
    (hbetween : (front ++ a :: back).IsChain fun b c => Untouched dir b.after c.before)
    (h : ∀ first, (front ++ a :: back).head? = some first → Held dir earlier first.before) :
    Held dir (earlier ++ front) a.before := by
  induction front generalizing earlier with
  | nil =>
    rw [List.append_nil]
    exact h a rfl
  | cons b front ih =>
    have hb := hproper b List.mem_cons_self
    have hstep := (h b rfl).attempt (hb.sound hne) hb.lawful hb.sameDir
    rw [List.cons_append, List.isChain_cons] at hbetween
    have hrest := ih (fun c hc => hproper c (List.mem_cons_of_mem b hc)) hbetween.2
      fun first hfirst => hstep.untouched (hbetween.1 first hfirst)
    rwa [List.append_assoc] at hrest

/-- Over any sequence of attempts on one directory, each one is sound. After one that failed the
next one tries again. If the directory was not there at first, it is taken as it is only after an
earlier attempt has cloned it, and with its head where that one has pinned it. The empty path never
leads anywhere, so what is made for it would never be discarded. -/
theorem attempts_pinned {dir : Path} (hne : dir.octets ≠ []) {attempts : List Attempt}
    (hproper : ∀ a ∈ attempts, a.Proper dir)
    (hbetween : attempts.IsChain fun a b => Untouched dir a.after b.before) :
    (∀ a ∈ attempts, a.Sound) ∧
      (∀ front a b back failure, attempts = front ++ a :: b :: back → a.result = .error failure →
        b.result ≠ .ok .alreadyPresent) ∧
      ((∀ first, attempts.head? = some first → first.before.pathExists dir = false) →
        ∀ front a back, attempts = front ++ a :: back → a.result = .ok .alreadyPresent →
          ∃ b ∈ front, b.result = .ok .cloned ∧ ∃ base commit, b.Clones base commit ∧
            a.before.locate dir = .ok (base, .directory) ∧
            b.git.detachedHead? base a.before = some commit) := by
  have hsound : ∀ a ∈ attempts, a.Sound := fun a ha => (hproper a ha).sound hne
  refine ⟨hsound, ?_, ?_⟩
  · intro front a b back failure hsplit hfailed hpresent
    subst hsplit
    have ha := hproper a (by simp)
    have hb := hproper b (by simp)
    have hsame : Untouched dir a.after b.before := by
      rw [List.isChain_append, List.isChain_cons_cons] at hbetween
      exact hbetween.2.1.1
    have hgone := (ha.sound hne).failed failure hfailed
    have hthere := (hb.sound hne).present_iff.mp hpresent
    rw [Attempt.Present, ha.sameDir] at hgone
    rw [Attempt.Present, hb.sameDir, hsame.pathExists] at hthere
    exact hgone hthere
  · intro hfirst front a back hsplit hpresent
    subst hsplit
    have hheld : Held dir ([] ++ front) a.before :=
      Held.attempts hne hproper hbetween fun first hhead => .absent (hfirst first hhead)
    cases hheld with
    | absent hgone =>
      have hthere := (hsound a (by simp)).present_iff.mp hpresent
      rw [Attempt.Present, (hproper a (by simp)).sameDir, hgone] at hthere
      cases hthere
    | cloned hb _ hcloned hclones hloc hhead =>
      exact ⟨_, hb, hcloned, _, _, hclones, hloc, hhead⟩

def attemptAt (dir version : String) (before : Disk) : Attempt :=
  ⟨LocalGit.library, ⟨"/src", version, .ofText dir⟩, before⟩

/-- A version that is not there, one that is, and another that is not: the last one is not looked
for, and the clone stays at the one before. -/
theorem attempts_pinned_in_turn :
    let first := attemptAt "/asdf" "v2" (LocalGit.sourceDisk [])
    let second := attemptAt "/asdf" "v1" (LocalGit.sourceDisk [])
    let third := attemptAt "/asdf" "v3" second.after
    first.result.isOk = false ∧ second.result = .ok .cloned ∧ third.result = .ok .alreadyPresent ∧
      second.Sound ∧ ∃ base, third.before.locate third.manager.dir = .ok (base, .directory) ∧
        (LocalGit.detachedHead? base third.before).isSome = true := by
  intro first second third
  obtain ⟨hfirst, hdiscarded⟩ : first.result.isOk = false ∧
      first.after = LocalGit.sourceDisk [] := by
    decide +kernel
  obtain ⟨hsecond, htree, hthird⟩ : second.result = .ok .cloned ∧ second.after.IsTree ∧
      third.result = .ok .alreadyPresent := by decide +kernel
  have hlawful := LocalGit.library_lawful
  have hup : dotDotName ∉ runs (Path.ofText "/asdf").octets := by decide +kernel
  have hproper : ∀ a ∈ [first, second, third], a.Proper (.ofText "/asdf") := by
    intro a ha
    simp only [List.mem_cons, List.not_mem_nil, or_false] at ha
    rcases ha with rfl | rfl | rfl
    · exact ⟨hlawful, rfl, by decide +kernel, Or.inl hup⟩
    · exact ⟨hlawful, rfl, by decide +kernel, Or.inl hup⟩
    · exact ⟨hlawful, rfl, htree, Or.inl hup⟩
  have hbetween : [first, second, third].IsChain fun a b =>
      Untouched (.ofText "/asdf") a.after b.before := by
    refine .cons_cons ?_ (.cons_cons ⟨rfl, fun _ _ _ _ _ => rfl⟩ (.singleton third))
    rw [hdiscarded]
    exact ⟨rfl, fun _ _ _ _ _ => rfl⟩
  have hne : (Path.ofText "/asdf").octets ≠ [] := by decide +kernel
  have habsent : (LocalGit.sourceDisk []).pathExists (.ofText "/asdf") = false := by decide +kernel
  obtain ⟨hsound, _, hpinned⟩ := attempts_pinned hne hproper hbetween
  have hstart : ∀ a, [first, second, third].head? = some a →
      a.before.pathExists (.ofText "/asdf") = false := by
    intro a ha
    cases ha
    exact habsent
  obtain ⟨b, hb, hcloned, base, commit, hclones, hloc, hhead⟩ :=
    hpinned hstart [first, second] third [] rfl hthird
  refine ⟨hfirst, hsecond, hthird, hsound second (by simp), base, hloc, ?_⟩
  simp only [List.mem_cons, List.not_mem_nil, or_false] at hb
  rcases hb with rfl | rfl
  · rw [hcloned] at hfirst
    cases hfirst
  · exact Option.isSome_iff_exists.mpr ⟨commit, hhead⟩

/-- The directory above a path that leads up may be all that is missing. It is made for the clone,
which then goes into a directory that was there before; and that directory is discarded with the
clone. -/
theorem failed_attempt_discards_directory :
    let kept : Location := [Utf8.encode "y", Utf8.encode "keep"]
    let a := attemptAt "/x/../y" "v2"
      (LocalGit.sourceDisk [([Utf8.encode "y"], .directory), (kept, .file [] false)])
    a.before.IsTree ∧ a.before.pathExists a.manager.dir = false ∧ a.result.isOk = false ∧
      a.before.node? kept = some (.file [] false) ∧ a.after.node? kept = none := by
  decide +kernel

end Manager

end ToolBootstrap
