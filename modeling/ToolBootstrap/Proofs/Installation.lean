import ToolBootstrap.LocalGit.Library
import ToolBootstrap.Proofs.Stages
import ToolBootstrap.Proofs.Text

/- The course of an installation.

   `Course` says what a tool's installation may look like: commands from the front of its plan, each
   with its answer, every answer but the last one letting the installation go on. The last answer
   either breaks it off, and then the outcome is that failure at that step, or the plan is complete
   and the outcome is the version that the tool reported. `installTools_run` finds such a course for
   every tool of a run, in order, and nothing that a runner is handed lies outside of them. -/

namespace ToolBootstrap.Bootstrap

open Session

variable {σ : Type}

/-! ## Courses -/

/-- A command of an installation, its step, and the answer to it. -/
structure Stage where
  step : InstallStep
  call : Invocation
  answer : Answer

def Stage.command (stage : Stage) : InstallStep × Invocation := (stage.step, stage.call)

/-- A failure that tells that a plugin is there already. -/
def PluginPresent (failure : Failure) : Prop :=
  (∃ what, failure = .alreadyExists what) ∨
    ∃ line code message, failure = .commandFailed line code message ∧
      "already added".toList <:+: message.toList

/-- An installation goes on after a stage: it succeeded, or its plugin is there already. -/
def Stage.Passes (stage : Stage) : Prop :=
  ∀ failure, stage.answer = .error failure → stage.step = .pluginAdd ∧ PluginPresent failure

/-- The version that a tool reports: its trimmed output, or its trimmed error stream where the
output is blank. -/
def reported (output : Output) : String :=
  if isAllBlank output.stdout then trim output.stderr else trim output.stdout

/-- The stages of a tool's installation, and its outcome. -/
inductive Course (path : SearchPath) (tool : Tool) : List Stage → Outcome → Prop where
  /-- A stage fails, and what the plan holds after it is not tried. -/
  | broken {before : List Stage} {last : Stage} {failure : Failure} :
      (before ++ [last]).map Stage.command <+: plan path tool →
      (∀ stage ∈ before, stage.Passes) → last.answer = .error failure → ¬ last.Passes →
      Course path tool (before ++ [last]) (.failed last.step failure)
  /-- The plan is carried out, and its last command tells the version. -/
  | complete {before : List Stage} {last : Stage} {output : Output} :
      (before ++ [last]).map Stage.command = plan path tool →
      (∀ stage ∈ before, stage.Passes) → last.answer = .ok output →
      Course path tool (before ++ [last]) (.installed (reported output))

theorem tolerates_iff (step : InstallStep) (failure : Failure) :
    tolerates step failure = true ↔ step = .pluginAdd ∧ PluginPresent failure := by
  cases step <;> cases failure <;> simp [tolerates, PluginPresent, contains_iff]

theorem versionReport_eq (output : Output) : versionReport output = reported output := by
  simp only [versionReport, reported, trim_isEmpty]

theorem plan_path {path : SearchPath} {tool : Tool} {command : InstallStep × Invocation}
    (h : command ∈ plan path tool) : command.2.path = path := by
  simp only [plan, List.mem_cons, List.not_mem_nil, or_false] at h
  rcases h with rfl | rfl | rfl | rfl <;> rfl

/-- The commands of a course are the front of a plan. -/
theorem Course.front {path : SearchPath} {tool : Tool} {stages : List Stage} {outcome : Outcome}
    (h : Course path tool stages outcome) : stages.map Stage.command <+: plan path tool := by
  cases h with
  | broken hfront => exact hfront
  | complete hwhole => rw [hwhole]

theorem Course.call_path {path : SearchPath} {tool : Tool} {stages : List Stage}
    {outcome : Outcome} (h : Course path tool stages outcome) :
    ∀ stage ∈ stages, stage.call.path = path := by
  intro stage hm
  exact plan_path (h.front.subset (List.mem_map_of_mem hm))

theorem courses_path {path : SearchPath} {results : List ToolResult} {courses : List (List Stage)}
    (h : List.Forall₂ (fun result stages => Course path result.tool stages result.outcome)
      results courses) : ∀ stage ∈ courses.flatten, stage.call.path = path := by
  induction h with
  | nil => simp
  | cons hcourse _ ih =>
    intro stage hm
    rcases List.mem_append.mp (List.flatten_cons ▸ hm) with hm | hm
    · exact hcourse.call_path stage hm
    · exact ih stage hm

/-! ## Following commands -/

/-- What comes of following commands through some stages: the first failure that is not tolerated,
or what the last command wrote. -/
inductive Followed :
    List (InstallStep × Invocation) → Output → List Stage → Except (InstallStep × Failure) Output →
      Prop where
  | done (last : Output) : Followed [] last [] (.ok last)
  | broken {step : InstallStep} {call : Invocation} {failure : Failure} (rest last) :
      ¬ Stage.Passes ⟨step, call, .error failure⟩ →
      Followed ((step, call) :: rest) last [⟨step, call, .error failure⟩] (.error (step, failure))
  | succeeded {step : InstallStep} {call : Invocation} {output : Output} {rest stages result}
      (last) : Followed rest output stages result →
      Followed ((step, call) :: rest) last (⟨step, call, .ok output⟩ :: stages) result
  | tolerated {step : InstallStep} {call : Invocation} {failure : Failure} {rest stages result}
      (last) : Stage.Passes ⟨step, call, .error failure⟩ →
      Followed rest Output.nothing stages result →
      Followed ((step, call) :: rest) last (⟨step, call, .error failure⟩ :: stages) result

theorem passes_error_iff (step : InstallStep) (call : Invocation) (failure : Failure) :
    Stage.Passes ⟨step, call, .error failure⟩ ↔ tolerates step failure = true := by
  rw [tolerates_iff]
  constructor
  · exact fun h => h failure rfl
  · intro h failure' hf
    cases hf
    exact h

section Equations

variable {runner : Runner σ} {step : InstallStep} {call : Invocation} {s : Session σ}
  (rest : List (InstallStep × Invocation)) (last : Output)

theorem follow_nil_run (runner : Runner σ) (last : Output) (s : Session σ) :
    (follow runner [] last).run s = (.ok last, s) := rfl

theorem follow_ok_run {output : Output} (h : (runner call s.state).1 = .ok output) :
    (follow runner ((step, call) :: rest) last).run s =
      (follow runner rest output).run (asked runner call s) := by
  simp only [follow, run_bind, run_invoke, h]

theorem follow_tolerated_run {failure : Failure} (h : (runner call s.state).1 = .error failure)
    (ht : tolerates step failure = true) :
    (follow runner ((step, call) :: rest) last).run s =
      (follow runner rest Output.nothing).run (asked runner call s) := by
  simp only [follow, run_bind, run_invoke, h, ht, if_true]

theorem follow_error_run {failure : Failure} (h : (runner call s.state).1 = .error failure)
    (ht : tolerates step failure = false) :
    (follow runner ((step, call) :: rest) last).run s =
      (.error (step, failure), asked runner call s) := by
  simp only [follow, run_bind, run_invoke, h, ht, Bool.false_eq_true, if_false, run_pure]

end Equations

/-- Commands that are followed are handed to the runner stage by stage. -/
theorem follow_run (runner : Runner σ) (commands : List (InstallStep × Invocation))
    (last : Output) (s : Session σ) :
    ∃ stages, Followed commands last stages ((follow runner commands last).run s).1 ∧
      ((follow runner commands last).run s).2.calls = s.calls ++ stages.map Stage.call ∧
      runner.serve (stages.map Stage.call) s.state =
        (stages.map Stage.answer, ((follow runner commands last).run s).2.state) := by
  induction commands generalizing last s with
  | nil => exact ⟨[], .done last, by simp [follow_nil_run], rfl⟩
  | cons command rest ih =>
    obtain ⟨step, call⟩ := command
    cases ha : (runner call s.state).1 with
    | ok output =>
      rw [follow_ok_run rest last ha]
      obtain ⟨stages, hf, hc, hs⟩ := ih output (asked runner call s)
      refine ⟨⟨step, call, .ok output⟩ :: stages, .succeeded last hf, by simp [hc], ?_⟩
      rw [List.map_cons, Runner.serve_cons, ← asked_state, hs, ha]
      rfl
    | error failure =>
      cases ht : tolerates step failure with
      | true =>
        rw [follow_tolerated_run rest last ha ht]
        obtain ⟨stages, hf, hc, hs⟩ := ih Output.nothing (asked runner call s)
        have hp := (passes_error_iff step call failure).mpr ht
        refine ⟨⟨step, call, .error failure⟩ :: stages, .tolerated last hp hf, by simp [hc], ?_⟩
        rw [List.map_cons, Runner.serve_cons, ← asked_state, hs, ha]
        rfl
      | false =>
        rw [follow_error_run rest last ha ht]
        have hp : ¬ Stage.Passes ⟨step, call, .error failure⟩ := by
          rw [passes_error_iff, ht]
          exact Bool.false_ne_true
        refine ⟨[⟨step, call, .error failure⟩], .broken rest last hp, by simp, ?_⟩
        rw [List.map_cons, Runner.serve_cons, ← asked_state, ha]
        rfl

/-! ## From followed commands to courses -/

theorem passes_ok (step : InstallStep) (call : Invocation) (output : Output) :
    Stage.Passes ⟨step, call, .ok output⟩ := fun _ h => by cases h

theorem passes_cons {first : Stage} {before : List Stage} (h : first.Passes)
    (hs : ∀ stage ∈ before, stage.Passes) : ∀ stage ∈ first :: before, stage.Passes := by
  intro stage hm
  rcases List.mem_cons.mp hm with rfl | hm
  · exact h
  · exact hs stage hm

/-- Commands that end in a failure end at the stage that met it. -/
theorem Followed.of_error {commands : List (InstallStep × Invocation)} {first : Output}
    {stages : List Stage} {step : InstallStep} {failure : Failure}
    (h : Followed commands first stages (.error (step, failure))) :
    ∃ before last, stages = before ++ [last] ∧ stages.map Stage.command <+: commands ∧
      (∀ stage ∈ before, stage.Passes) ∧ last.step = step ∧ last.answer = .error failure ∧
      ¬ last.Passes := by
  generalize hr : (Except.error (step, failure) : Except (InstallStep × Failure) Output) = result
    at h
  induction h with
  | done last => cases hr
  | broken rest last hp =>
    cases hr
    exact ⟨[], _, rfl, by simp [Stage.command], by simp, rfl, rfl, hp⟩
  | succeeded last hf ih =>
    obtain ⟨before, final, rfl, hpre, hpass, hend⟩ := ih hr
    exact ⟨_ :: before, final, rfl, (List.prefix_cons_inj _).mpr hpre,
      passes_cons (passes_ok _ _ _) hpass, hend⟩
  | tolerated last hp hf ih =>
    obtain ⟨before, final, rfl, hpre, hpass, hend⟩ := ih hr
    exact ⟨_ :: before, final, rfl, (List.prefix_cons_inj _).mpr hpre, passes_cons hp hpass, hend⟩

/-- Commands that are followed to their end give the output of the last one, if that one is not
allowed to fail. -/
theorem Followed.of_ok {commands : List (InstallStep × Invocation)} {first output : Output}
    {stages : List Stage} {final : InstallStep × Invocation}
    (h : Followed commands first stages (.ok output)) (hfinal : commands.getLast? = some final)
    (hstep : final.1 ≠ .pluginAdd) :
    ∃ before last, stages = before ++ [last] ∧ stages.map Stage.command = commands ∧
      (∀ stage ∈ before, stage.Passes) ∧ last.answer = .ok output := by
  generalize hr : (Except.ok output : Except (InstallStep × Failure) Output) = result at h
  induction h with
  | done last => cases hfinal
  | broken rest last hp => cases hr
  | @succeeded step call output' rest stages' result' last hf ih =>
    cases rest with
    | nil =>
      cases hf
      cases hr
      exact ⟨[], _, rfl, rfl, by simp, rfl⟩
    | cons next rest =>
      rw [List.getLast?_cons_cons] at hfinal
      obtain ⟨before, last', rfl, hmap, hpass, hend⟩ := ih hfinal hr
      refine ⟨_ :: before, last', rfl, ?_, passes_cons (passes_ok _ _ _) hpass, hend⟩
      rw [List.map_cons, hmap]
      rfl
  | @tolerated step call failure rest stages' result' last hp hf ih =>
    cases rest with
    | nil =>
      cases hfinal
      exact absurd (hp failure rfl).1 hstep
    | cons next rest =>
      rw [List.getLast?_cons_cons] at hfinal
      obtain ⟨before, last', rfl, hmap, hpass, hend⟩ := ih hfinal hr
      refine ⟨_ :: before, last', rfl, ?_, passes_cons hp hpass, hend⟩
      rw [List.map_cons, hmap]
      rfl

/-! ## Tools -/

/-- A tool's installation takes a course to its outcome. -/
theorem installTool_run (runner : Runner σ) (path : SearchPath) (tool : Tool) (s : Session σ) :
    ∃ stages, ((installTool runner path tool).run s).1.tool = tool ∧
      Course path tool stages ((installTool runner path tool).run s).1.outcome ∧
      ((installTool runner path tool).run s).2.calls = s.calls ++ stages.map Stage.call ∧
      runner.serve (stages.map Stage.call) s.state =
        (stages.map Stage.answer, ((installTool runner path tool).run s).2.state) := by
  unfold installTool
  rw [run_bind, run_say, run_bind]
  obtain ⟨stages, hf, hc, hs⟩ := follow_run runner (plan path tool) Output.nothing
    { s with
      console := s.console ++
        [.record (.status "Installing" (tool.name ++ " -v " ++ tool.version ++ "..."))] }
  generalize (follow runner (plan path tool) Output.nothing).run _ = followed at hf hc hs ⊢
  obtain ⟨result, after⟩ := followed
  cases result with
  | error broken =>
    obtain ⟨step, failure⟩ := broken
    obtain ⟨before, last, rfl, hmap, hpass, rfl, hans, hnot⟩ := hf.of_error
    exact ⟨before ++ [last], rfl, .broken hmap hpass hans hnot, hc, hs⟩
  | ok output =>
    have hfinal : (plan path tool).getLast? =
        some (.verify, ⟨tool.versionCommand, ["--version"], path⟩) := rfl
    obtain ⟨before, last, rfl, hmap, hpass, hans⟩ := hf.of_ok hfinal (by simp)
    have hcourse : Course path tool (before ++ [last]) (.installed (versionReport output)) := by
      rw [versionReport_eq]
      exact .complete hmap hpass hans
    cases hm : mentionsVersion (versionReport output) tool.version <;>
      simp only [hm, Bool.not_true, Bool.not_false, Bool.false_eq_true, if_true, if_false] <;>
      exact ⟨before ++ [last], rfl, hcourse, hc, hs⟩

theorem installTools_cons_run (runner : Runner σ) (path : SearchPath) (tool : Tool)
    (rest : List Tool) (s : Session σ) :
    (installTools runner path (tool :: rest)).run s =
      (((installTool runner path tool).run s).1 ::
          ((installTools runner path rest).run ((installTool runner path tool).run s).2).1,
        ((installTools runner path rest).run ((installTool runner path tool).run s).2).2) := rfl

/-- The tools of a run are installed one after the other, each by a course of its own. -/
theorem installTools_run (runner : Runner σ) (path : SearchPath) (tools : List Tool)
    (s : Session σ) :
    ∃ courses : List (List Stage),
      ((installTools runner path tools).run s).1.map ToolResult.tool = tools ∧
      List.Forall₂ (fun result stages => Course path result.tool stages result.outcome)
        ((installTools runner path tools).run s).1 courses ∧
      ((installTools runner path tools).run s).2.calls =
        s.calls ++ courses.flatten.map Stage.call ∧
      runner.serve (courses.flatten.map Stage.call) s.state =
        (courses.flatten.map Stage.answer, ((installTools runner path tools).run s).2.state) := by
  induction tools generalizing s with
  | nil => exact ⟨[], rfl, .nil, (List.append_nil s.calls).symm, rfl⟩
  | cons tool rest ih =>
    obtain ⟨stages, ht, hcourse, hcalls, hserve⟩ := installTool_run runner path tool s
    obtain ⟨courses, hts, hcourses, hcallss, hserves⟩ :=
      ih ((installTool runner path tool).run s).2
    rw [installTools_cons_run]
    refine ⟨stages :: courses, ?_, .cons (by rw [ht]; exact hcourse) hcourses, ?_, ?_⟩
    · simp only [List.map_cons, ht, hts]
    · simp only [hcallss, hcalls, List.flatten_cons, List.map_append, List.append_assoc]
    · simp only [List.flatten_cons, List.map_append, Runner.serve_append, hserve, hserves]

/-! ## Runs -/

/-- A report is about the manager of its run and the search path as it has been persisted, and has
one result for each tool, in their order. -/
theorem run_reports {b : Bootstrap} {git : Git} {runner : Runner σ} {elapsed : Elapsed}
    {tools : List Tool} {ci : Bool} {s after : Session σ} {report : Report}
    (h : (b.run git runner elapsed tools ci).run s = (.ok report, after)) :
    report.managerDir = b.manager.dir ∧ report.managerVersion = b.manager.version ∧
      report.tools.map ToolResult.tool = tools ∧
      report.managerState = (b.manager.ensureInstalled git s.disk).1.toOption ∧
      (b.persisted ci (b.managed git s.disk)).1 = .ok report.startup := by
  cases hp : (b.persisted ci (b.managed git s.disk)).1 with
  | error failure =>
    obtain ⟨console, hrun⟩ := run_of_error hp runner elapsed tools
    rw [hrun] at h
    cases h
  | ok startup =>
    obtain ⟨console, hrun⟩ := run_of_ok hp runner elapsed tools
    rw [hrun] at h
    cases h
    obtain ⟨_, htools, _⟩ := installTools_run runner b.extendedPath tools
      { s with disk := b.ready git ci s.disk, console := console }
    exact ⟨rfl, rfl, htools, rfl, rfl⟩

/-- A run that completes has one result for each tool, in order, and has handed over the commands
of their courses and nothing else: every course runs through the front of its tool's plan, past
nothing but a plugin that is there already, and its last answer is the outcome. -/
theorem run_courses {b : Bootstrap} {git : Git} {runner : Runner σ} {elapsed : Elapsed}
    {tools : List Tool} {ci : Bool} {s s' : Session σ} {report : Report}
    (h : (b.run git runner elapsed tools ci).run s = (.ok report, s')) :
    report.tools.map ToolResult.tool = tools ∧
      ∃ courses : List (List Stage),
        List.Forall₂ (fun result stages => Course b.extendedPath result.tool stages result.outcome)
          report.tools courses ∧
        s'.calls = s.calls ++ courses.flatten.map Stage.call ∧
        runner.serve (courses.flatten.map Stage.call) (b.ready git ci s.disk, s.memory) =
          (courses.flatten.map Stage.answer, s'.state) := by
  cases hp : (b.persisted ci (b.managed git s.disk)).1 with
  | error failure =>
    obtain ⟨console, hr⟩ := run_of_error hp runner elapsed tools
    rw [hr] at h
    cases h
  | ok startup =>
    obtain ⟨console, hr⟩ := run_of_ok hp runner elapsed tools
    rw [hr] at h
    cases h
    obtain ⟨courses, htools, hcourses, hcalls, hserve⟩ :=
      installTools_run runner b.extendedPath tools
        { s with disk := b.ready git ci s.disk, console := console }
    exact ⟨htools, courses, hcourses, hcalls, hserve⟩

/-- A host whose manager is at the root, with a startup file below it. -/
def rootSetup : Bootstrap :=
  { manager := ⟨"", "", ⟨[slash]⟩⟩
    searchPath := .empty
    shell := .bash
    startupFile := ⟨[slash, 0x72]⟩
    ciFile := none }

/-- Answers by which both plugins are there, and the second tool has no such release. -/
def pluginsThere : Runner Unit :=
  Runner.scripted
    [("asdf plugin add a", .error (.commandFailed "asdf plugin add a" (some 2) "already added")),
     ("asdf plugin add b", .error (.alreadyExists "plugin b")),
     ("asdf install b 2", .error (.badSetting "unknown release")),
     ("a --version", .ok ⟨" ", "a 1\n"⟩)]

/-- A run whose first tool tells its version on the error stream, and whose second one cannot be
installed. -/
theorem run_courses_two_tools :
    let tools : List Tool := [⟨"a", "1", none⟩, ⟨"b", "2", none⟩]
    let ran := (rootSetup.run LocalGit.library pluginsThere ⟨0, 0⟩ tools false).run
      (Session.start (.ofEntries []) ())
    ∃ report, ran = (.ok report, ran.2) ∧
      report.tools = [⟨⟨"a", "1", none⟩, .installed "a 1"⟩,
        ⟨⟨"b", "2", none⟩, .failed .install (.badSetting "unknown release")⟩] ∧
      ran.2.calls.map Invocation.line = ["asdf plugin add a", "asdf install a 1", "asdf global a 1",
        "a --version", "asdf plugin add b", "asdf install b 2"] ∧
      report.tools.map ToolResult.tool = tools := by
  intro tools ran
  have hreport : ran.1 = .ok
      { managerDir := ⟨[slash]⟩
        managerVersion := ""
        managerState := some .alreadyPresent
        searchPath := rootSetup.extendedPath
        startup := some .appended
        tools := [⟨⟨"a", "1", none⟩, .installed "a 1"⟩,
          ⟨⟨"b", "2", none⟩, .failed .install (.badSetting "unknown release")⟩] } := by
    decide +kernel
  have hcalls : ran.2.calls.map Invocation.line = ["asdf plugin add a", "asdf install a 1",
      "asdf global a 1", "a --version", "asdf plugin add b", "asdf install b 2"] := by
    decide +kernel
  obtain ⟨⟨result, after⟩, hran⟩ : ∃ r, ran = r := ⟨ran, rfl⟩
  rw [hran] at hreport hcalls ⊢
  dsimp only at hreport
  subst hreport
  exact ⟨_, rfl, rfl, hcalls, (run_courses hran).1⟩

end ToolBootstrap.Bootstrap
