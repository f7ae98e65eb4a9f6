import ToolBootstrap.Proofs.Installation

/- What a run tells of its tools.

   Commands write nothing to the console themselves, so the records of a tool's installation depend
   on its result alone (`installTool_console`). -/

namespace ToolBootstrap.Bootstrap

open Session

variable {σ : Type}

def announced (tool : Tool) : Console.Record :=
  .status "Installing" (tool.name ++ " -v " ++ tool.version ++ "...")

/-- The warning that a tool has reported something else than its pinned version. -/
def unexpected (tool : Tool) (report : String) : Console.Record :=
  .warn (tool.versionCommand ++ " reported " ++ Quoted.text report ++ ", expected " ++ tool.version)

def confirmed (tool : Tool) (report : String) : Console.Record :=
  .success "Installed" (tool.name ++ " -v " ++ report)

def told (result : ToolResult) : List Console.Record :=
  match result.outcome with
  | .installed report =>
    announced result.tool ::
      ((if mentionsVersion report result.tool.version then []
        else [unexpected result.tool report]) ++ [confirmed result.tool report])
  | .failed _ failure =>
    [announced result.tool,
      .warn ("could not install " ++ result.tool.name ++ ": " ++ failure.message)]

theorem told_mentioned {tool : Tool} {report : String}
    (h : mentionsVersion report tool.version = true) :
    told ⟨tool, .installed report⟩ = [announced tool, confirmed tool report] := by
  simp [told, h]

theorem told_unmentioned {tool : Tool} {report : String}
    (h : mentionsVersion report tool.version = false) :
    told ⟨tool, .installed report⟩ =
      [announced tool, unexpected tool report, confirmed tool report] := by
  simp [told, h]

theorem follow_console (runner : Runner σ) (commands : List (InstallStep × Invocation))
    (last : Output) (s : Session σ) :
    ((follow runner commands last).run s).2.console = s.console := by
  induction commands generalizing last s with
  | nil => rfl
  | cons command rest ih =>
    obtain ⟨step, call⟩ := command
    rw [follow, run_bind, run_invoke]
    cases (runner call s.state).1 with
    | ok output => exact ih output _
    | error failure =>
      dsimp only
      split
      · exact ih Output.nothing _
      · rfl

/-- The console after a tool's installation: its records have been added. -/
theorem installTool_console (runner : Runner σ) (path : SearchPath) (tool : Tool) (s : Session σ) :
    ((installTool runner path tool).run s).2.console =
      s.console ++ (told ((installTool runner path tool).run s).1).map .record := by
  unfold installTool
  rw [run_bind, run_say, run_bind]
  have hfollow := follow_console runner (plan path tool) Output.nothing
    { s with
      console := s.console ++
        [.record (.status "Installing" (tool.name ++ " -v " ++ tool.version ++ "..."))] }
  generalize (follow runner (plan path tool) Output.nothing).run _ = followed at hfollow ⊢
  obtain ⟨result, after⟩ := followed
  change after.console = _ at hfollow
  cases result with
  | error broken =>
    show after.console ++ [_] = _
    rw [hfollow, List.append_assoc]
    rfl
  | ok output =>
    cases hm : mentionsVersion (versionReport output) tool.version with
    | true =>
      simp only [hm, Bool.not_true, Bool.false_eq_true, if_false]
      show after.console ++ [_] = s.console ++ (told ⟨tool, .installed _⟩).map .record
      rw [hfollow, List.append_assoc, told_mentioned hm]
      rfl
    | false =>
      simp only [hm, Bool.not_false, if_true]
      show after.console ++ [_] ++ [_] = s.console ++ (told ⟨tool, .installed _⟩).map .record
      rw [hfollow, List.append_assoc, List.append_assoc, told_unmentioned hm]
      rfl

theorem installTool_console_installed {runner : Runner σ} {path : SearchPath} {tool : Tool}
    {s : Session σ} {report : String}
    (h : ((installTool runner path tool).run s).1.outcome = .installed report) :
    ((installTool runner path tool).run s).2.console =
      s.console ++ (told ⟨tool, .installed report⟩).map .record := by
  obtain ⟨_, htool, _⟩ := installTool_run runner path tool s
  have hresult : ((installTool runner path tool).run s).1 = ⟨tool, .installed report⟩ :=
    calc ((installTool runner path tool).run s).1
        = ⟨((installTool runner path tool).run s).1.tool,
            ((installTool runner path tool).run s).1.outcome⟩ := rfl
      _ = ⟨tool, .installed report⟩ := by rw [htool, h]
  rw [installTool_console, hresult]

end ToolBootstrap.Bootstrap
