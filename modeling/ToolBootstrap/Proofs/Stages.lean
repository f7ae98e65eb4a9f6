import ToolBootstrap.Bootstrap
import ToolBootstrap.Proofs.Conversation

/- The stages of a run.

   A run sees to the manager, tells what it adds to the search path, persists the search path, and
   then installs the tools. The first three stages make up the opening. The opening hands nothing to
   the runner, and `ready` is the disk that it leaves: the disk that the first command finds. -/

namespace ToolBootstrap.Bootstrap

open Session

variable {σ : Type}

/-! ## The opening -/

/-- The disk once the manager has been seen to. -/
def managed (b : Bootstrap) (git : Git) (disk : Disk) : Disk :=
  (b.manager.ensureInstalled git disk).2

/-- Persisting the search path: what comes of it, and the disk after it. -/
def persisted (b : Bootstrap) (ci : Bool) (disk : Disk) :
    Except Failure (Option StartupFile.Update) × Disk :=
  if ci then
    let (result, after) := CiFile.persist b.ciFile b.extendedPath disk
    (result.map fun _ => none, after)
  else
    let (result, after) := StartupFile.ensureLines b.startupFile (Manager.startupMarker b.shell)
      (b.manager.startupLines b.shell) disk
    (.ok result.toOption, after)

/-- The disk that the first command of a run finds. -/
def ready (b : Bootstrap) (git : Git) (ci : Bool) (disk : Disk) : Disk :=
  (b.persisted ci (b.managed git disk)).2

/-- The part of a run before its tools. -/
def opening (b : Bootstrap) (git : Git) (elapsed : Elapsed) (ci : Bool) :
    Act σ (Option Manager.State × Except Failure (Option StartupFile.Update)) := do
  let state ← b.ensureManager git elapsed
  b.announcePath
  let outcome ← b.persistPath ci
  return (state, outcome)

theorem ensureManager_run (b : Bootstrap) (git : Git) (elapsed : Elapsed) (s : Session σ) :
    ∃ console, (b.ensureManager git elapsed).run s =
      ((b.manager.ensureInstalled git s.disk).1.toOption,
        { s with disk := b.managed git s.disk, console := console }) := by
  unfold ensureManager
  rw [run_bind, run_onDisk]
  rcases (b.manager.ensureInstalled git s.disk).1 with failure | state
  · exact ⟨_, rfl⟩
  · cases state <;> exact ⟨_, rfl⟩

theorem persistForCi_run (b : Bootstrap) (s : Session σ) :
    ∃ console, b.persistForCi.run s =
      ((CiFile.persist b.ciFile b.extendedPath s.disk).1,
        { s with
          disk := (CiFile.persist b.ciFile b.extendedPath s.disk).2
          console := console }) := by
  unfold persistForCi
  rw [run_bind, run_onDisk]
  rcases (CiFile.persist b.ciFile b.extendedPath s.disk).1 with failure | done <;> exact ⟨_, rfl⟩

theorem persistForShell_run (b : Bootstrap) (s : Session σ) :
    ∃ console, b.persistForShell.run s =
      ((StartupFile.ensureLines b.startupFile (Manager.startupMarker b.shell)
          (b.manager.startupLines b.shell) s.disk).1.toOption,
        { s with
          disk := (StartupFile.ensureLines b.startupFile (Manager.startupMarker b.shell)
            (b.manager.startupLines b.shell) s.disk).2
          console := console }) := by
  unfold persistForShell
  dsimp only
  rw [run_bind, run_onDisk]
  rcases (StartupFile.ensureLines b.startupFile (Manager.startupMarker b.shell)
    (b.manager.startupLines b.shell) s.disk).1 with failure | update
  · exact ⟨_, rfl⟩
  · cases update <;> exact ⟨_, rfl⟩

theorem persistPath_run (b : Bootstrap) (ci : Bool) (s : Session σ) :
    ∃ console, (b.persistPath ci).run s =
      ((b.persisted ci s.disk).1,
        { s with disk := (b.persisted ci s.disk).2, console := console }) := by
  cases ci with
  | true =>
    obtain ⟨console, h⟩ := b.persistForCi_run s
    simp only [persistPath, persisted, if_true, run_bind, h]
    rcases (CiFile.persist b.ciFile b.extendedPath s.disk).1 with failure | done <;>
      exact ⟨_, rfl⟩
  | false =>
    obtain ⟨console, h⟩ := b.persistForShell_run s
    simp only [persistPath, persisted, Bool.false_eq_true, if_false, run_bind, h]
    exact ⟨_, rfl⟩

/-- The opening leaves `ready`, and neither hands over a command nor touches the runner's memory. -/
theorem opening_run (b : Bootstrap) (git : Git) (elapsed : Elapsed) (ci : Bool) (s : Session σ) :
    ∃ console, (b.opening git elapsed ci).run s =
      (((b.manager.ensureInstalled git s.disk).1.toOption,
        (b.persisted ci (b.managed git s.disk)).1),
        { s with disk := b.ready git ci s.disk, console := console }) := by
  obtain ⟨first, h₁⟩ := b.ensureManager_run git elapsed s
  simp only [opening, announcePath, run_bind, h₁, run_say]
  obtain ⟨second, h₂⟩ := b.persistPath_run ci
    { s with
      disk := b.managed git s.disk
      console := first ++ [.record (.status "Path"
        ("added " ++ " and ".intercalate (b.manager.pathDirs.map Path.display)))] }
  rw [h₂]
  exact ⟨second, rfl⟩

/-! ## The whole run -/

theorem run_eq_opening (b : Bootstrap) (git : Git) (runner : Runner σ) (elapsed : Elapsed)
    (tools : List Tool) (ci : Bool) :
    b.run git runner elapsed tools ci = (do
      let (state, outcome) ← b.opening git elapsed ci
      match outcome with
      | .error failure => return .error failure
      | .ok startup =>
        let results ← installTools runner b.extendedPath tools
        return .ok
          { managerDir := b.manager.dir
            managerVersion := b.manager.version
            managerState := state
            searchPath := b.extendedPath
            startup := startup
            tools := results }) := rfl

theorem run_of_error {b : Bootstrap} {git : Git} {ci : Bool} {s : Session σ} {failure : Failure}
    (h : (b.persisted ci (b.managed git s.disk)).1 = .error failure) (runner : Runner σ)
    (elapsed : Elapsed) (tools : List Tool) :
    ∃ console, (b.run git runner elapsed tools ci).run s =
      (.error failure, { s with disk := b.ready git ci s.disk, console := console }) := by
  obtain ⟨console, ho⟩ := b.opening_run git elapsed ci s
  rw [run_eq_opening, run_bind, ho, h]
  exact ⟨console, rfl⟩

/-- A run whose search path has been persisted installs its tools. -/
theorem run_of_ok {b : Bootstrap} {git : Git} {ci : Bool} {s : Session σ}
    {startup : Option StartupFile.Update}
    (h : (b.persisted ci (b.managed git s.disk)).1 = .ok startup) (runner : Runner σ)
    (elapsed : Elapsed) (tools : List Tool) :
    ∃ console, (b.run git runner elapsed tools ci).run s =
      let installed := (installTools runner b.extendedPath tools).run
        { s with disk := b.ready git ci s.disk, console := console }
      (.ok
        { managerDir := b.manager.dir
          managerVersion := b.manager.version
          managerState := (b.manager.ensureInstalled git s.disk).1.toOption
          searchPath := b.extendedPath
          startup := startup
          tools := installed.1 }, installed.2) := by
  obtain ⟨console, ho⟩ := b.opening_run git elapsed ci s
  rw [run_eq_opening, run_bind, ho, h]
  exact ⟨console, rfl⟩

end ToolBootstrap.Bootstrap
