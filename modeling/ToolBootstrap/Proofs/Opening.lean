import ToolBootstrap.Proofs.CiAppend
import ToolBootstrap.Proofs.Installation
import ToolBootstrap.Proofs.LocalLibrary

/- What a run has done by its first command.

   The search path is extended and persisted before anything is handed to the runner, and every
   command is given the extended path (`run_persists_first`). After that the disk changes by what
   the runner does, and by nothing else: the state that a run leaves is the one in which the runner,
   served the run's invocations from `ready`, ends. A run fails on CI only, before its first
   command, and each mode leaves the file of the other one alone (`run_confines_failures`). -/

namespace ToolBootstrap.Bootstrap

open Session

variable {σ : Type}

/-! ## The extended search path -/

theorem contains_pathDirs (b : Bootstrap) {dir : Path} (h : dir ∈ b.manager.pathDirs) :
    b.extendedPath.contains dir = true := SearchPath.contains_extended b.searchPath h

/-! ## The persisted search path -/

/-- Persisting fails on CI only, where the CI file could not be written to. -/
theorem persisted_error {b : Bootstrap} {ci : Bool} {disk : Disk} {failure : Failure}
    (h : (b.persisted ci disk).1 = .error failure) :
    ci = true ∧ CiFile.Persisted b.ciFile b.extendedPath disk (.error failure)
      (b.persisted ci disk).2 := by
  cases ci with
  | false => cases h
  | true =>
    simp only [persisted, if_true] at h ⊢
    have hpersisted := CiFile.persist_spec b.ciFile b.extendedPath disk
    cases hp : (CiFile.persist b.ciFile b.extendedPath disk).1 with
    | ok done =>
      rw [hp] at h
      cases h
    | error fault =>
      rw [hp] at h hpersisted
      cases h
      exact ⟨trivial, hpersisted⟩

theorem persisted_ci {b : Bootstrap} {disk : Disk} {startup : Option StartupFile.Update}
    (h : (b.persisted true disk).1 = .ok startup) :
    startup = none ∧ ∃ target, b.ciFile = some target ∧
      disk.append target (CiFile.assignment b.extendedPath) =
        (.ok (), (b.persisted true disk).2) := by
  simp only [persisted, if_true] at h ⊢
  have hpersisted := CiFile.persist_spec b.ciFile b.extendedPath disk
  cases hp : (CiFile.persist b.ciFile b.extendedPath disk).1 with
  | error fault =>
    rw [hp] at h
    cases h
  | ok done =>
    rw [hp] at h hpersisted
    cases h
    cases hpersisted with
    | added hfile _ happend => exact ⟨rfl, _, hfile, happend⟩

theorem persisted_shell (b : Bootstrap) (disk : Disk) :
    ∃ result, (b.persisted false disk).1 = .ok result.toOption ∧
      StartupFile.Ensured b.startupFile (Manager.startupMarker b.shell)
        (b.manager.startupLines b.shell) disk result (b.persisted false disk).2 :=
  ⟨_, rfl, StartupFile.ensureLines_spec _ _ _ _⟩

theorem persisted_marker {b : Bootstrap} {disk : Disk} {update : StartupFile.Update}
    (h : (b.persisted false disk).1 = .ok (some update)) :
    ∃ data, (b.persisted false disk).2.read b.startupFile = .ok data ∧
      ∃ line ∈ data.splitOn 0x0A, Utf8.encode (Manager.startupMarker b.shell) <:+: line := by
  obtain ⟨result, hresult, hensured⟩ := b.persisted_shell disk
  rw [hresult] at h
  cases result with
  | error failure => cases h
  | ok update' =>
    obtain ⟨data, hread, hmark⟩ :=
      hensured.holds (b.manager.marker_in_startupLines b.shell)
    have hfeed : (0x0A : UInt8) ∉ Utf8.encode (Manager.startupMarker b.shell) := by
      cases b.shell <;> decide
    exact ⟨data, hread, exists_mem_splitOn hfeed hmark⟩

/-! ## Files that are left alone -/

theorem ready_shell_keeps {git : Git} (hgit : git.Lawful) (b : Bootstrap) (disk : Disk)
    {l : Location} (hl : ¬ b.manager.Occupies git disk l)
    (hfile : ∀ node, (b.ready git false disk).locate b.startupFile ≠ .ok (l, node)) :
    Disk.Keeps disk (b.ready git false disk) l := by
  obtain ⟨_, hmanaged⟩ := Manager.ensureInstalled_keeps hgit b.manager disk hl
  obtain ⟨result, _, hensured⟩ := b.persisted_shell (b.managed git disk)
  exact hmanaged.trans (hensured.keeps hfile)

theorem ready_ci_keeps {git : Git} (hgit : git.Lawful) (b : Bootstrap) (disk : Disk)
    {l : Location} (hl : ¬ b.manager.Occupies git disk l)
    (hfile : ∀ target node, b.ciFile = some target →
      (b.ready git true disk).locate target ≠ .ok (l, node)) :
    Disk.Keeps disk (b.ready git true disk) l := by
  obtain ⟨_, hmanaged⟩ := Manager.ensureInstalled_keeps hgit b.manager disk hl
  have hpersisted := CiFile.persist_spec b.ciFile b.extendedPath (b.managed git disk)
  exact hmanaged.trans (Or.inl (hpersisted.keeps hfile))

/-- On CI, what a path outside the manager leads to is found there, unless it is the CI file. -/
theorem ready_ci_locate {git : Git} (hgit : git.Lawful) (b : Bootstrap) {disk : Disk} {path : Path}
    {l : Location} {node : Node}
    (hbeside : b.manager.isInstalled disk = true ∨ b.manager.Spares git disk path)
    (hloc : disk.locate path = .ok (l, node))
    (hfile : ∀ target node, b.ciFile = some target →
      (b.ready git true disk).locate target ≠ .ok (l, node)) :
    (b.ready git true disk).locate path = .ok (l, node) := by
  have hmanaged := Manager.ensureInstalled_locate hgit hbeside hloc
  have hpersisted := CiFile.persist_spec b.ciFile b.extendedPath (b.managed git disk)
  exact hpersisted.locate hmanaged hfile

/-! ## The settings of the other mode -/

theorem run_with_ciFile (b : Bootstrap) (ciFile : Option Path) (runner : Runner σ)
    (elapsed : Elapsed) (tools : List Tool) :
    { b with ciFile := ciFile }.run git runner elapsed tools false =
      b.run git runner elapsed tools false := by
  unfold run persistPath
  simp only [Bool.false_eq_true, if_false]
  rfl

theorem run_with_shell (b : Bootstrap) (startupFile : Path) (shell : Shell) (runner : Runner σ)
    (elapsed : Elapsed) (tools : List Tool) :
    { b with startupFile := startupFile, shell := shell }.run git runner elapsed tools true =
      b.run git runner elapsed tools true := by
  unfold run persistPath
  simp only [if_true]
  rfl

/-! ## Whole runs -/

/-- The issued commands of a run, whatever comes of it. -/
theorem run_issues (b : Bootstrap) (git : Git) (runner : Runner σ) (elapsed : Elapsed)
    (tools : List Tool) (ci : Bool) (s : Session σ) :
    let ran := (b.run git runner elapsed tools ci).run s
    ∃ issued, ran.2.calls = s.calls ++ issued ∧ (∀ call ∈ issued, call.path = b.extendedPath) ∧
      ran.2.state = (runner.serve issued (b.ready git ci s.disk, s.memory)).2 ∧
      (∀ failure, ran.1 = .error failure →
        (b.persisted ci (b.managed git s.disk)).1 = .error failure ∧ issued = []) ∧
      ∀ report, ran.1 = .ok report →
        (b.persisted ci (b.managed git s.disk)).1 = .ok report.startup ∧
          report.searchPath = b.extendedPath := by
  intro ran
  cases hp : (b.persisted ci (b.managed git s.disk)).1 with
  | error failure =>
    obtain ⟨console, hr⟩ := run_of_error hp runner elapsed tools
    have hran : ran = _ := hr
    rw [hran]
    refine ⟨[], (List.append_nil _).symm, by simp, rfl, ?_, ?_⟩
    · intro failure' hf
      cases hf
      exact ⟨rfl, rfl⟩
    · intro report hok
      cases hok
  | ok startup =>
    obtain ⟨console, hr⟩ := run_of_ok hp runner elapsed tools
    have hran : ran = _ := hr
    rw [hran]
    obtain ⟨courses, _, hcourses, hcalls, hserve⟩ :=
      installTools_run runner b.extendedPath tools
        { s with disk := b.ready git ci s.disk, console := console }
    refine ⟨courses.flatten.map Stage.call, hcalls, ?_, ?_, ?_, ?_⟩
    · intro call hc
      obtain ⟨stage, hstage, rfl⟩ := List.mem_map.mp hc
      exact courses_path hcourses stage hstage
    · exact (congrArg Prod.snd hserve).symm
    · intro failure hf
      cases hf
    · intro report hok
      cases hok
      exact ⟨rfl, rfl⟩

/-- A run persists its search path before its first command, once, and gives every command that one
search path: the initial entries in their order, and the directories of the manager. When the first
command is handed over, the CI file has received the path, or the startup file that is reported on
has a line with the marker; from there on nothing but the runner changes the disk. -/
theorem run_persists_first (b : Bootstrap) (git : Git) (runner : Runner σ) (elapsed : Elapsed)
    (tools : List Tool) (ci : Bool) (s : Session σ) :
    let ran := (b.run git runner elapsed tools ci).run s
    b.searchPath.entries <+: b.extendedPath.entries ∧
      b.extendedPath.contains b.manager.binDir = true ∧
      b.extendedPath.contains b.manager.shimsDir = true ∧
      (∀ report, ran.1 = .ok report → report.searchPath = b.extendedPath) ∧
      ∃ issued, ran.2.calls = s.calls ++ issued ∧
        (∀ call ∈ issued, call.path = b.extendedPath) ∧
        ran.2.state = (runner.serve issued (b.ready git ci s.disk, s.memory)).2 ∧
        (ci = true → (issued ≠ [] ∨ ∃ report, ran.1 = .ok report) →
          ∃ target, b.ciFile = some target ∧ (b.ready git ci s.disk).read target =
            .ok (StartupFile.contentOrNothing (b.managed git s.disk) target ++
              Utf8.encode "PATH=" ++
              [colon].intercalate (b.extendedPath.entries.map Path.octets) ++ [0x0A])) ∧
        (ci = false → ∀ report update, ran.1 = .ok report → report.startup = some update →
          ∃ data, (b.ready git ci s.disk).read b.startupFile = .ok data ∧
            ∃ line ∈ data.splitOn 0x0A,
              Utf8.encode (Manager.startupMarker b.shell) <:+: line) := by
  intro ran
  obtain ⟨issued, hcalls, hpath, hstate, herror, hok⟩ :=
    b.run_issues git runner elapsed tools ci s
  refine ⟨SearchPath.prefix_extended _ _, b.contains_pathDirs (by simp [Manager.pathDirs]),
    b.contains_pathDirs (by simp [Manager.pathDirs]), fun report h => (hok report h).2, issued,
    hcalls, hpath, hstate, ?_, ?_⟩
  · intro he hcompleted
    subst he
    -- A run that issues a command has not ended with its opening.
    obtain ⟨report, hreport⟩ : ∃ report, ran.1 = .ok report := by
      cases hr : ran.1 with
      | ok report => exact ⟨report, rfl⟩
      | error failure =>
        rcases hcompleted with hissued | ⟨report, h⟩
        · exact absurd (herror failure hr).2 hissued
        · rw [hr] at h
          cases h
    obtain ⟨_, target, hfile, happend⟩ := persisted_ci (hok report hreport).1
    obtain ⟨l, mode, _, hloc⟩ := Disk.append_spec happend
    refine ⟨target, hfile, Disk.read_ok_iff.mpr ⟨l, mode, ?_⟩⟩
    simpa only [ready, CiFile.assignment, SearchPath.joined, List.append_assoc] using hloc
  · intro he report update hreport hupdate
    subst he
    have hp := (hok report hreport).1
    rw [hupdate] at hp
    exact persisted_marker hp

theorem persisted_error_iff (b : Bootstrap) (ci : Bool) (disk : Disk) :
    (∃ failure, (b.persisted ci disk).1 = .error failure) ↔ ci = true ∧
      ∃ failure, (CiFile.persist b.ciFile b.extendedPath disk).1 = .error failure := by
  cases ci with
  | false =>
    constructor
    · rintro ⟨failure, h⟩
      cases h
    · rintro ⟨h, _⟩
      cases h
  | true =>
    simp only [persisted, if_true, true_and]
    cases (CiFile.persist b.ciFile b.extendedPath disk).1 with
    | error failure => exact ⟨fun _ => ⟨failure, rfl⟩, fun _ => ⟨failure, rfl⟩⟩
    | ok done =>
      constructor
      · rintro ⟨failure, h⟩
        cases h
      · rintro ⟨failure, h⟩
        cases h

theorem ready_of_error {git : Git} (hgit : git.Lawful) {b : Bootstrap} {ci : Bool} {disk : Disk}
    {failure : Failure} (h : (b.persisted ci (b.managed git disk)).1 = .error failure) :
    (∀ l, ¬ b.manager.Occupies git disk l →
        (b.ready git ci disk).content? l = disk.content? l) ∨
      CiFile.BrokeOff b.ciFile b.extendedPath (b.managed git disk) (b.ready git ci disk) := by
  obtain ⟨rfl, hpersisted⟩ := persisted_error h
  rcases hpersisted.same_or_broken with hsame | hbroken
  · refine Or.inl fun l hl => ?_
    have hmanaged := (Manager.ensureInstalled_keeps hgit b.manager disk hl).2
    exact (hmanaged.trans (Or.inl (hsame.2 l))).content
  · exact Or.inr hbroken

end ToolBootstrap.Bootstrap
