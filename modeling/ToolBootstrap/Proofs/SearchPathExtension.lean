import Mathlib.Data.List.Forall2
import ToolBootstrap.Proofs.PathSpelling
import ToolBootstrap.Proofs.SearchPathCodec

/- Search paths that are extended.

   Directories are added one after the other, each to the path as it has grown by then. What that
   comes to can be told from the entries and the directories at the start: a directory is added
   exactly if neither an entry nor a directory before it is the same place (`extended_concat`), so
   of all spellings of a place the first one stays. Which directories these are depends on
   components alone (`components_extended`). -/

namespace ToolBootstrap

namespace Path

theorem same_trans {p q r : Path} (h : p.same q = true) (h' : q.same r = true) :
    p.same r = true := by
  simp only [same, beq_iff_eq] at h h' ⊢
  exact h.trans h'

end Path

namespace SearchPath

/-- No two of these paths are the same place. -/
def Distinct (entries : List Path) : Prop := entries.Pairwise fun p q => p.same q = false

variable (path : SearchPath) (dirs more : List Path)

/-! ## What is added -/

theorem contains_eq_false_iff {path : SearchPath} {dir : Path} :
    path.contains dir = false ↔ ∀ entry ∈ path.entries, entry.same dir = false := by
  simp [contains]

theorem extended_append : path.extended (dirs ++ more) = (path.extended dirs).extended more :=
  List.foldl_append

/-- The path grows by some of the directories, in their order: places that are neither among its
entries nor twice among these directories. -/
theorem extended_spec : ∃ added, added.Sublist dirs ∧
    (path.extended dirs).entries = path.entries ++ added ∧
    (∀ dir ∈ added, ∀ entry ∈ path.entries, entry.same dir = false) ∧ Distinct added := by
  induction dirs generalizing path with
  | nil => exact ⟨[], List.Sublist.refl _, (List.append_nil _).symm, nofun, .nil⟩
  | cons dir rest ih =>
    have hstep : path.extended (dir :: rest) = (path.add dir).extended rest := rfl
    obtain ⟨added, hsub, hentries, hfresh, hdistinct⟩ := ih (path.add dir)
    rw [hstep, hentries]
    rcases path.add_cases dir with ⟨-, hadd⟩ | ⟨hcontains, hadd⟩
    · rw [hadd] at hfresh ⊢
      exact ⟨added, hsub.cons dir, rfl, hfresh, hdistinct⟩
    · -- The directory is added first, and what is added behind it differs from it, too.
      rw [hadd] at hfresh ⊢
      refine ⟨dir :: added, hsub.cons_cons dir, by simp, fun other hother => ?_, ?_⟩
      · rcases List.mem_cons.mp hother with rfl | hother
        · exact contains_eq_false_iff.mp hcontains
        · exact fun entry hentry => hfresh other hother entry (by simp [hentry])
      · exact .cons (fun other hother => hfresh other hother dir (by simp)) hdistinct

theorem Distinct.extended {path : SearchPath} (h : Distinct path.entries) (dirs : List Path) :
    Distinct (path.extended dirs).entries := by
  obtain ⟨added, -, hentries, hfresh, hdistinct⟩ := extended_spec path dirs
  rw [hentries]
  exact List.pairwise_append.mpr
    ⟨h, hdistinct, fun entry hentry dir hdir => hfresh dir hdir entry hentry⟩

/-! ## Which spelling stays -/

theorem contains_extended_iff {dir : Path} : (path.extended dirs).contains dir = true ↔
    ∃ earlier ∈ path.entries ++ dirs, earlier.same dir = true := by
  constructor
  · intro h
    obtain ⟨entry, hentry, hsame⟩ := List.any_eq_true.mp h
    exact ⟨entry, List.mem_append.mpr (mem_extended hentry), hsame⟩
  · intro ⟨earlier, hmem, hsame⟩
    rcases List.mem_append.mp hmem with hentry | hdir
    · exact contains_of_front (prefix_extended path dirs)
        (List.any_eq_true.mpr ⟨earlier, hentry, hsame⟩)
    · -- The path contains the earlier directory by an entry, which is the same place as well.
      obtain ⟨entry, hentry, hearlier⟩ := List.any_eq_true.mp (contains_extended path hdir)
      exact List.any_eq_true.mpr ⟨entry, hentry, Path.same_trans hearlier hsame⟩

theorem extended_concat (dir : Path) : path.extended (dirs ++ [dir]) =
    if ∃ earlier ∈ path.entries ++ dirs, earlier.same dir = true then path.extended dirs
    else ⟨(path.extended dirs).entries ++ [dir]⟩ := by
  rw [extended_append]
  show (path.extended dirs).add dir = _
  simp only [add, contains_extended_iff]

/-! ## Components -/

theorem contains_eq_components (dir : Path) :
    path.contains dir = (path.entries.map Path.components).contains dir.components := by
  rw [Bool.eq_iff_iff, List.contains_iff_mem, List.mem_map, contains, List.any_eq_true]
  simp only [Path.same, beq_iff_eq]

theorem components_extended : (path.extended dirs).entries.map Path.components =
    (dirs.map Path.components).foldl
      (fun known place => if known.contains place then known else known ++ [place])
      (path.entries.map Path.components) := by
  induction dirs generalizing path with
  | nil => rfl
  | cons dir rest ih =>
    have hadd : (path.add dir).entries.map Path.components =
        if (path.entries.map Path.components).contains dir.components
          then path.entries.map Path.components
          else path.entries.map Path.components ++ [dir.components] := by
      rw [add, contains_eq_components]
      split_ifs
      · rfl
      · exact List.map_append
    rw [List.map_cons, List.foldl_cons, ← hadd]
    exact ih (path.add dir)

/-- Paths that are the same places one by one, in whichever spelling. -/
def Alike : List Path → List Path → Prop :=
  List.Forall₂ fun p q => Path.Respelled p.octets q.octets

theorem alike_iff {ps qs : List Path} :
    Alike ps qs ↔ ps.map Path.components = qs.map Path.components := by
  have hsame : ∀ p q : Path, Path.Respelled p.octets q.octets ↔ p.components = q.components :=
    fun p q => by rw [← Path.same_iff_respelled, Path.same, beq_iff_eq]
  have hmap : List.Forall₂ (· = ·) (ps.map Path.components) (qs.map Path.components) ↔
      List.Forall₂ (fun p q => p.components = q.components) ps qs := by
    rw [List.forall₂_map_left_iff, List.forall₂_map_right_iff]
  rw [List.forall₂_eq_eq_eq] at hmap
  simp only [Alike, hsame, hmap]

section Spelling

variable {path} {path' : SearchPath} (h : Alike path.entries path'.entries)
include h

theorem contains_respelled {dir dir' : Path} (hdir : Path.Respelled dir.octets dir'.octets) :
    path.contains dir = path'.contains dir' := by
  have hcomponents : dir.components = dir'.components := by
    simpa [Path.same] using Path.same_iff_respelled.mpr hdir
  rw [contains_eq_components, contains_eq_components, alike_iff.mp h, hcomponents]

theorem extended_respelled {dirs dirs' : List Path} (hdirs : Alike dirs dirs') :
    Alike (path.extended dirs).entries (path'.extended dirs').entries := by
  rw [alike_iff, components_extended, components_extended, alike_iff.mp h, alike_iff.mp hdirs]

end Spelling

/-! ## The law -/

/-- Extension of a search path. The entries stay, and behind them come some of the directories, in
their order, such as are the same place neither as an entry nor as each other; every directory is
contained then. To extend once more changes nothing, and to extend by more directories is to extend
twice. Entries that were different places stay so. Of a place the first spelling stays. Two paths
are the same place exactly if one is the other but for repeated slashes, a slash at the end, and a
`.` between slashes, while a `..` takes back no name; and what is contained, and what is added, is
the same in all such spellings. -/
theorem extended_law (path : SearchPath) (dirs : List Path) :
    (∃ added, added.Sublist dirs ∧ (path.extended dirs).entries = path.entries ++ added ∧
      (∀ dir ∈ added, ∀ entry ∈ path.entries, entry.same dir = false) ∧
      added.Pairwise fun p q => p.same q = false) ∧
    (∀ dir ∈ dirs, (path.extended dirs).contains dir = true) ∧
    (path.extended dirs).extended dirs = path.extended dirs ∧
    (∀ more, path.extended (dirs ++ more) = (path.extended dirs).extended more) ∧
    (Distinct path.entries → Distinct (path.extended dirs).entries) ∧
    (∀ dir, path.extended (dirs ++ [dir]) =
      if ∃ earlier ∈ path.entries ++ dirs, earlier.same dir = true then path.extended dirs
      else ⟨(path.extended dirs).entries ++ [dir]⟩) ∧
    (∀ p q : Path, p.same q = true ↔ Path.Respelled p.octets q.octets) ∧
    (∀ x name y, ¬ (name = [] ∨ name = dotName) → slash ∉ name →
      (⟨x ++ slash :: (name ++ slash :: (dotDotName ++ slash :: y))⟩ : Path).same
        ⟨x ++ slash :: y⟩ = false) ∧
    ∀ path' : SearchPath, Alike path.entries path'.entries →
      (∀ dir dir' : Path, Path.Respelled dir.octets dir'.octets →
        path.contains dir = path'.contains dir') ∧
      ∀ dirs', Alike dirs dirs' →
        Alike (path.extended dirs).entries (path'.extended dirs').entries := by
  refine ⟨extended_spec path dirs, fun dir => contains_extended path, extended_again path dirs,
    extended_append path dirs, fun h => h.extended dirs, extended_concat path dirs,
    fun p q => Path.same_iff_respelled, fun x name y => Path.not_same_of_back x y, ?_⟩
  exact fun path' h => ⟨fun dir dir' => contains_respelled h, fun dirs' => extended_respelled h⟩

/-- Directories in several spellings, of which one is an entry already, and a way back. -/
theorem extended_law_spellings :
    let dir := Path.ofText
    let path : SearchPath := ⟨[dir "/usr/bin", dir "/a"]⟩
    let dirs := [dir "/a/.", dir "/c//b", dir "/c/b/", dir "/c/../a"]
    let path' : SearchPath := ⟨[dir "/usr//bin", dir "/a/"]⟩
    let dirs' := [dir "/a", dir "/c/b", dir "/c/./b", dir "/c/../a/"]
    Distinct path.entries ∧ Distinct (path.extended dirs).entries ∧
      (path.extended dirs).entries = path.entries ++ [dir "/c//b", dir "/c/../a"] ∧
      (dir "/c/../a").same (dir "/a") = false ∧
      Alike path.entries path'.entries ∧ Alike dirs dirs' ∧
      Alike (path.extended dirs).entries (path'.extended dirs').entries := by
  intro dir path dirs path' dirs'
  have hdistinct : Distinct path.entries := by
    simp only [Distinct, path, dir]
    decide +kernel
  have halike : Alike path.entries path'.entries := alike_iff.mpr (by decide +kernel)
  have halike' : Alike dirs dirs' := alike_iff.mpr (by decide +kernel)
  obtain ⟨-, -, -, -, hkeeps, -, -, hback, hspelling⟩ := extended_law path dirs
  refine ⟨hdistinct, hkeeps hdistinct, by decide +kernel, ?_, halike, halike',
    (hspelling path' halike).2 dirs' halike'⟩
  exact hback [] (Utf8.encode "c") (Utf8.encode "a") (by decide +kernel) (by decide +kernel)

end SearchPath

end ToolBootstrap
