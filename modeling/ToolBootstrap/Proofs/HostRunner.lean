import ToolBootstrap.Host
import ToolBootstrap.Proofs.CiAppend
import ToolBootstrap.Proofs.Opening

/- What becomes of commands on a host.

   `Exit` lists the ways in which an invocation ends there: its search path cannot be written, its
   program is not found or cannot be started, or the process fails or succeeds. A host that keeps a
   list of what it starts (`Host.recording`) ends an invocation in the same way, and tells the exits
   apart by that list (`exit_ofHost`). An entry with a colon in the search path of a run is an entry
   of the path of every command, so that no tool comes further than its first step
   (`Refuses.installTools`). On CI the run itself ends with it, because that search path cannot be
   written to the CI file either. -/

namespace ToolBootstrap

variable {σ : Type}

/-! ## Starts -/

structure Start where
  file : Path
  args : List String
  written : Bytes
  deriving DecidableEq, Repr

/-- A host that keeps a list of what it starts. -/
def Host.recording (host : Host σ) : Host (List Start × σ) where
  find program written state := host.find program written (state.1, state.2.2)
  start file args written state :=
    let (result, disk, memory) := host.start file args written (state.1, state.2.2)
    (result, disk, state.2.1 ++ [⟨file, args, written⟩], memory)

/-! ## Exits -/

/-- An entry cannot be told from two entries once it is written. -/
def SearchPath.Blocked (path : SearchPath) : Prop := ∃ entry ∈ path.entries, colon ∈ entry.octets

theorem SearchPath.Blocked.written {path : SearchPath} (h : path.Blocked) :
    ∃ reason, path.written = .error (.badSetting reason) := by
  obtain ⟨entry, hentry, hcolon⟩ := h
  exact ⟨_, if_pos (List.any_eq_true.mpr ⟨entry, hentry, by simpa using hcolon⟩)⟩

theorem SearchPath.written_of_not_blocked {path : SearchPath} (h : ¬ path.Blocked) :
    path.written = .ok path.joined :=
  written_of_free fun entry hentry hcolon => h ⟨entry, hentry, hcolon⟩

/-- How an invocation ends on a host: with an answer, after some starts, in some state. -/
inductive Exit (host : Host σ) (call : Invocation) (state : Disk × σ) :
    Answer → List Start → Disk × σ → Prop where
  | blocked {reason : String} : call.path.Blocked →
      call.path.written = .error (.badSetting reason) →
      Exit host call state (.error (.badSetting reason)) [] state
  | missing : ¬ call.path.Blocked → host.find call.program call.path.joined state = none →
      Exit host call state
        (.error (.commandFailed call.line none (notFoundMessage call.program))) [] state
  | unstarted {file : Path} {fault : IoFault} {after : Disk × σ} : ¬ call.path.Blocked →
      host.find call.program call.path.joined state = some file →
      host.start file call.args call.path.joined state = (.error fault, after) →
      Exit host call state (.error (.commandFailed call.line none fault.message))
        [⟨file, call.args, call.path.joined⟩] after
  | failed {file : Path} {process : Finished} {after : Disk × σ} : ¬ call.path.Blocked →
      host.find call.program call.path.joined state = some file →
      host.start file call.args call.path.joined state = (.ok process, after) →
      process.ending ≠ .exited 0 →
      Exit host call state
        (.error (.commandFailed call.line process.ending.status? process.complaint))
        [⟨file, call.args, call.path.joined⟩] after
  | succeeded {file : Path} {process : Finished} {after : Disk × σ} : ¬ call.path.Blocked →
      host.find call.program call.path.joined state = some file →
      host.start file call.args call.path.joined state = (.ok process, after) →
      process.ending = .exited 0 →
      Exit host call state (.ok process.output) [⟨file, call.args, call.path.joined⟩] after

/-- An invocation ends in one of the ways, and a list of the starts changes nothing. -/
theorem exit_ofHost (host : Host σ) (call : Invocation) (disk : Disk) (started : List Start)
    (memory : σ) :
    ∃ answer starts after, Exit host call (disk, memory) answer starts after ∧
      Runner.ofHost host call (disk, memory) = (answer, after) ∧
      Runner.ofHost host.recording call (disk, started, memory) =
        (answer, after.1, started ++ starts, after.2) := by
  by_cases hblocked : call.path.Blocked
  · obtain ⟨reason, hwritten⟩ := hblocked.written
    refine ⟨_, [], _, .blocked hblocked hwritten, ?_, ?_⟩
    · simp only [Runner.ofHost, hwritten]
    · simp only [Runner.ofHost, hwritten, List.append_nil]
  · have hwritten := SearchPath.written_of_not_blocked hblocked
    cases hfind : host.find call.program call.path.joined (disk, memory) with
    | none =>
      refine ⟨_, [], _, .missing hblocked hfind, ?_, ?_⟩
      · simp only [Runner.ofHost, hwritten, hfind]
      · simp only [Runner.ofHost, Host.recording, hwritten, hfind, List.append_nil]
    | some file =>
      obtain ⟨⟨result, after⟩, hstart⟩ :
          ∃ r, host.start file call.args call.path.joined (disk, memory) = r := ⟨_, rfl⟩
      cases result with
      | error fault =>
        refine ⟨_, _, _, .unstarted hblocked hfind hstart, ?_, ?_⟩
        · simp only [Runner.ofHost, hwritten, hfind, hstart]
        · simp only [Runner.ofHost, Host.recording, hwritten, hfind, hstart]
      | ok process =>
        by_cases hending : process.ending = .exited 0
        · refine ⟨_, _, _, .succeeded hblocked hfind hstart hending, ?_, ?_⟩
          · simp only [Runner.ofHost, Finished.answer, hwritten, hfind, hstart, hending, if_true]
          · simp only [Runner.ofHost, Host.recording, Finished.answer, hwritten, hfind, hstart,
              hending, if_true]
        · refine ⟨_, _, _, .failed hblocked hfind hstart hending, ?_, ?_⟩
          · simp only [Runner.ofHost, Finished.answer, hwritten, hfind, hstart, hending, if_false]
          · simp only [Runner.ofHost, Host.recording, Finished.answer, hwritten, hfind, hstart,
              hending, if_false]

theorem Finished.complaint_eq (process : Finished) : process.complaint =
    if isAllBlank (Utf8.lossy process.stderr) then trim (Utf8.lossy process.stdout)
    else trim (Utf8.lossy process.stderr) := by
  simp only [Finished.complaint, Finished.output, trim_isEmpty]

namespace Exit

variable {host : Host σ} {call : Invocation} {state after : Disk × σ} {answer : Answer}
  {starts : List Start}

theorem ok_iff (h : Exit host call state answer starts after) (output : Output) :
    answer = .ok output ↔ ¬ call.path.Blocked ∧
      ∃ file process, host.find call.program call.path.joined state = some file ∧
        host.start file call.args call.path.joined state = (.ok process, after) ∧
        process.ending = .exited 0 ∧ starts = [⟨file, call.args, call.path.joined⟩] ∧
        output = ⟨Utf8.lossy process.stdout, Utf8.lossy process.stderr⟩ := by
  cases h with
  | blocked hblocked => simp [hblocked]
  | missing hblocked hfind => simp [hfind]
  | unstarted hblocked hfind hstart => simp [hfind, hstart]
  | failed hblocked hfind hstart hending => simp [hfind, hstart, hending]
  | succeeded hblocked hfind hstart hending =>
    simp [hblocked, hfind, hstart, hending, Finished.output, eq_comm]

theorem badSetting_iff (h : Exit host call state answer starts after) :
    (∃ reason, answer = .error (.badSetting reason)) ↔ call.path.Blocked := by
  cases h with
  | blocked hblocked => exact iff_of_true ⟨_, rfl⟩ hblocked
  | missing hblocked | unstarted hblocked | failed hblocked | succeeded hblocked =>
    apply iff_of_false _ hblocked
    intro ⟨reason, hreason⟩
    cases hreason

theorem untouched (h : Exit host call state answer starts after) (hblocked : call.path.Blocked) :
    starts = [] ∧ after = state := by
  cases h with
  | blocked => exact ⟨rfl, rfl⟩
  | missing hnot | unstarted hnot | failed hnot | succeeded hnot => exact absurd hblocked hnot

/-- Any other failure names the command line, and tells how the process has ended and what it had to
say, if there has been one. -/
theorem failure_spec (h : Exit host call state answer starts after) {failure : Failure}
    (hfailure : answer = .error failure) (hblocked : ¬ call.path.Blocked) :
    ∃ code message,
      failure = .commandFailed (" ".intercalate (call.program :: call.args)) code message ∧
      (∀ file process, host.find call.program call.path.joined state = some file →
        host.start file call.args call.path.joined state = (.ok process, after) →
        starts = [⟨file, call.args, call.path.joined⟩] ∧ code = process.ending.status? ∧
          message = if isAllBlank (Utf8.lossy process.stderr) then trim (Utf8.lossy process.stdout)
            else trim (Utf8.lossy process.stderr)) ∧
      ((host.find call.program call.path.joined state = none ∨
          ∃ file fault, host.find call.program call.path.joined state = some file ∧
            host.start file call.args call.path.joined state = (.error fault, after)) →
        code = none) := by
  cases h with
  | blocked hyes => exact absurd hyes hblocked
  | missing _ hfind =>
    cases hfailure
    exact ⟨_, _, rfl, by simp [hfind], fun _ => rfl⟩
  | unstarted _ hfind hstart =>
    cases hfailure
    refine ⟨_, _, rfl, ?_, fun _ => rfl⟩
    intro file process hfile hprocess
    rw [hfind] at hfile
    cases hfile
    rw [hstart] at hprocess
    cases hprocess
  | failed _ hfind hstart hending =>
    cases hfailure
    refine ⟨_, _, rfl, ?_, by simp [hfind, hstart]⟩
    intro file process hfile hprocess
    rw [hfind] at hfile
    cases hfile
    rw [hstart] at hprocess
    cases hprocess
    exact ⟨rfl, rfl, Finished.complaint_eq _⟩
  | succeeded => cases hfailure

end Exit

/-! ## Refused commands -/

namespace Bootstrap

open Session

/-- A runner that refuses every command with a search path, and does nothing about it. -/
def Refuses (runner : Runner σ) (path : SearchPath) (failure : Failure) : Prop :=
  ∀ call state, call.path = path → runner call state = (.error failure, state)

namespace Refuses

variable {runner : Runner σ} {path : SearchPath} {reason : String}

theorem installTool (h : Refuses runner path (.badSetting reason)) (tool : Tool) (s : Session σ) :
    ((installTool runner path tool).run s).1 = ⟨tool, .failed .pluginAdd (.badSetting reason)⟩ ∧
      ((installTool runner path tool).run s).2.state = s.state := by
  have hrefused : ∀ t : Session σ, (follow runner (plan path tool) Output.nothing).run t =
      (.error (.pluginAdd, .badSetting reason),
        asked runner ⟨managerProgram, ["plugin", "add", tool.name], path⟩ t) := by
    intro t
    have hanswer := h ⟨managerProgram, ["plugin", "add", tool.name], path⟩ t.state rfl
    exact follow_error_run _ _ (congrArg Prod.fst hanswer) rfl
  unfold Bootstrap.installTool
  rw [run_bind, run_say, run_bind, hrefused]
  refine ⟨rfl, ?_⟩
  exact congrArg Prod.snd (h ⟨managerProgram, ["plugin", "add", tool.name], path⟩ s.state rfl)

theorem installTools (h : Refuses runner path (.badSetting reason)) (tools : List Tool)
    (s : Session σ) :
    ((installTools runner path tools).run s).1 =
        tools.map (⟨·, .failed .pluginAdd (.badSetting reason)⟩) ∧
      ((installTools runner path tools).run s).2.state = s.state := by
  induction tools generalizing s with
  | nil => exact ⟨rfl, rfl⟩
  | cons tool rest ih =>
    obtain ⟨hresult, hstate⟩ := h.installTool tool s
    obtain ⟨hresults, hstates⟩ := ih ((Bootstrap.installTool runner path tool).run s).2
    rw [installTools_cons_run, List.map_cons, hresult, hresults]
    exact ⟨rfl, hstates.trans hstate⟩

end Refuses

theorem refuses_of_blocked (host : Host σ) {path : SearchPath} (h : path.Blocked) :
    ∃ reason, Refuses (Runner.ofHost host) path (.badSetting reason) := by
  obtain ⟨reason, hwritten⟩ := h.written
  refine ⟨reason, ?_⟩
  intro call state hpath
  rw [← hpath] at hwritten
  simp only [Runner.ofHost, hwritten]

theorem persisted_blocked {b : Bootstrap} (h : b.extendedPath.Blocked) (disk : Disk) :
    ∃ failure, (b.persisted true disk).1 = .error failure := by
  rw [persisted_error_iff]
  refine ⟨rfl, ?_⟩
  cases hp : CiFile.persist b.ciFile b.extendedPath disk with
  | mk result after =>
    cases result with
    | error failure => exact ⟨failure, rfl⟩
    | ok done =>
      obtain ⟨_, _, hvalue, _⟩ := CiFile.persist_ok_iff.mp hp
      obtain ⟨entry, hentry, hcolon⟩ := h
      exact absurd hcolon ((SearchPath.lineValue_ok_iff _).mp hvalue |>.1 entry hentry)

/-- A run with a blocked search path starts nothing on a host. Interactively it reports that every
tool has failed at its first step, and on CI it ends without a command, for the CI file. -/
theorem run_blocked (host : Host σ) {b : Bootstrap} (h : b.extendedPath.Blocked) (git : Git)
    (elapsed : Elapsed) (tools : List Tool) (ci : Bool) (s : Session σ) :
    let ran := (b.run git (.ofHost host) elapsed tools ci).run s
    ran.2.memory = s.memory ∧
      (ci = false → ∃ report reason, ran.1 = .ok report ∧
        report.tools = tools.map (⟨·, .failed .pluginAdd (.badSetting reason)⟩)) ∧
      (ci = true → (∃ reason, ran.1 = .error (.writeUnavailable b.ciFile reason)) ∧
        ran.2.calls = s.calls) := by
  intro ran
  cases ci with
  | false =>
    obtain ⟨reason, hrefuses⟩ := refuses_of_blocked host h
    obtain ⟨result, hp, -⟩ := b.persisted_shell (b.managed git s.disk)
    obtain ⟨console, hrun⟩ := run_of_ok hp (.ofHost host) elapsed tools
    obtain ⟨htools, hstate⟩ := hrefuses.installTools tools
      { s with disk := b.ready git false s.disk, console := console }
    have hran : ran = _ := hrun
    rw [hran]
    exact ⟨congrArg Prod.snd hstate, fun _ => ⟨_, reason, rfl, htools⟩, by simp⟩
  | true =>
    obtain ⟨failure, hp⟩ := persisted_blocked h (b.managed git s.disk)
    obtain ⟨-, hpersisted⟩ := persisted_error hp
    obtain ⟨reason, rfl⟩ := hpersisted.unavailable
    obtain ⟨console, hrun⟩ := run_of_error hp (.ofHost host) elapsed tools
    have hran : ran = _ := hrun
    rw [hran]
    exact ⟨rfl, by simp, fun _ => ⟨⟨reason, rfl⟩, rfl⟩⟩

/-! ## The law -/

/-- What becomes of commands on a host. An invocation succeeds exactly if its search path can be
written, its program is found there, starts, and exits with status zero; its output is then what the
process wrote, as text. A search path with a colon in an entry is refused as a setting, and nothing
is started for it. Any other failure names the command line, with the exit status of a process that
was not killed, and with what the process wrote to its error stream, or to its output where the
error stream is blank. So a run with such an entry in its search path starts nothing: interactively
every tool fails at its first step, and on CI the run ends before its first command, for the CI
file. -/
theorem host_law (host : Host σ) :
    (∀ (call : Invocation) (disk : Disk) (started : List Start) (memory : σ),
      ∃ answer starts after, Runner.ofHost host call (disk, memory) = (answer, after) ∧
        Runner.ofHost host.recording call (disk, started, memory) =
          (answer, after.1, started ++ starts, after.2) ∧
        (∀ output, answer = .ok output ↔ ¬ call.path.Blocked ∧
          ∃ file process, host.find call.program call.path.joined (disk, memory) = some file ∧
            host.start file call.args call.path.joined (disk, memory) = (.ok process, after) ∧
            process.ending = .exited 0 ∧ starts = [⟨file, call.args, call.path.joined⟩] ∧
            output = ⟨Utf8.lossy process.stdout, Utf8.lossy process.stderr⟩) ∧
        ((∃ reason, answer = .error (.badSetting reason)) ↔ call.path.Blocked) ∧
        (call.path.Blocked → starts = [] ∧ after = (disk, memory)) ∧
        ∀ failure, answer = .error failure → ¬ call.path.Blocked →
          ∃ code message,
            failure = .commandFailed (" ".intercalate (call.program :: call.args)) code message ∧
            (∀ file process, host.find call.program call.path.joined (disk, memory) = some file →
              host.start file call.args call.path.joined (disk, memory) = (.ok process, after) →
              starts = [⟨file, call.args, call.path.joined⟩] ∧ code = process.ending.status? ∧
                message = if isAllBlank (Utf8.lossy process.stderr)
                  then trim (Utf8.lossy process.stdout)
                  else trim (Utf8.lossy process.stderr)) ∧
            ((host.find call.program call.path.joined (disk, memory) = none ∨
                ∃ file fault,
                  host.find call.program call.path.joined (disk, memory) = some file ∧
                  host.start file call.args call.path.joined (disk, memory) =
                    (.error fault, after)) →
              code = none)) ∧
    ∀ (b : Bootstrap) (git : Git) (elapsed : Elapsed) (tools : List Tool) (ci : Bool)
      (s : Session (List Start × σ)), b.extendedPath.Blocked →
      let ran := (b.run git (.ofHost host.recording) elapsed tools ci).run s
      ran.2.memory = s.memory ∧
        (ci = false → ∃ report reason, ran.1 = .ok report ∧
          report.tools = tools.map (⟨·, .failed .pluginAdd (.badSetting reason)⟩)) ∧
        (ci = true → (∃ reason, ran.1 = .error (.writeUnavailable b.ciFile reason)) ∧
          ran.2.calls = s.calls) := by
  constructor
  · intro call disk started memory
    obtain ⟨answer, starts, after, hexit, hplain, hrecorded⟩ :=
      exit_ofHost host call disk started memory
    exact ⟨answer, starts, after, hplain, hrecorded, hexit.ok_iff, hexit.badSetting_iff,
      hexit.untouched, fun failure => hexit.failure_spec⟩
  · intro b git elapsed tools ci s hblocked
    exact run_blocked host.recording hblocked git elapsed tools ci s

/-- On CI such a run reports on no tool: it ends for the CI file, which could be written
otherwise. -/
theorem run_blocked_on_ci :
    let host : Host Unit := ⟨fun _ _ _ => none, fun _ _ _ state => (.error .noEntry, state)⟩
    let free : Bootstrap := { rootSetup with ciFile := some (.ofText "/env") }
    let b : Bootstrap := { free with searchPath := ⟨[.ofText "/a:b"]⟩ }
    let tools : List Tool := [⟨"a", "1.0.0", none⟩]
    let ran (b : Bootstrap) :=
      (b.run LocalGit.library (.ofHost host.recording) ⟨0, 0⟩ tools true).run
      (Session.start (.ofEntries []) ([], ()))
    b.extendedPath.Blocked ∧
      (ran b).1 = .error (.writeUnavailable (some (.ofText "/env"))
        "invalid configuration: invalid search path entry: path segment contains separator `:`") ∧
      (ran b).2.calls = [] ∧ (∀ report, (ran b).1 ≠ .ok report) ∧
      ∃ report, (ran free).1 = .ok report := by
  intro host free b tools ran
  have hblocked : b.extendedPath.Blocked := by
    refine ⟨.ofText "/a:b", ?_, ?_⟩ <;> decide +kernel
  have hresult : (ran b).1 = .error (.writeUnavailable (some (.ofText "/env"))
      "invalid configuration: invalid search path entry: path segment contains separator `:`") := by
    decide +kernel
  have hfree : (ran free).1.isOk = true := by decide +kernel
  refine ⟨hblocked, hresult, by decide +kernel, fun report hreport => ?_, ?_⟩
  · rw [hresult] at hreport
    cases hreport
  · cases hr : (ran free).1 with
    | ok report => exact ⟨report, rfl⟩
    | error failure =>
      rw [hr] at hfree
      cases hfree

end Bootstrap

end ToolBootstrap
