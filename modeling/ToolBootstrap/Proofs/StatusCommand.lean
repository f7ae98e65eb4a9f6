import ToolBootstrap.Proofs.InstallCommand
import ToolBootstrap.Proofs.ReceiptCodec

/- What is told of an installation, at its end and later.

   The install command counts the results of its run, and the status command counts what it reads in
   a receipt. A receipt keeps of each result what is told of it (`toolRecord_receipt`), and so many
   tools installed (`installed_receipt`), and what was kept is read back. So both commands tell the
   same, for every mix of outcomes (`install_status_agree`). -/

namespace ToolBootstrap

namespace ToolResult

/-- What is to be told of a tool once its installation has ended. -/
def told (result : ToolResult) : Console.Record :=
  match result.outcome with
  | .installed report => .success result.tool.name (result.tool.version ++ " (" ++ report ++ ")")
  | .failed step failure =>
    .warn (result.tool.name ++ " " ++ result.tool.version ++ " not installed: " ++ step.name ++
      ": " ++ failure.message)

theorem toolRecord_receipt (result : ToolResult) :
    Command.toolRecord result.receipt = result.told := by
  obtain ⟨tool, outcome⟩ := result
  cases outcome with
  | installed report => rfl
  | failed step failure =>
    simp only [Command.toolRecord, receipt, told, String.append_assoc]

theorem receipt_status (result : ToolResult) :
    decide (result.receipt.status = .installed) = result.isInstalled := by
  obtain ⟨tool, outcome⟩ := result
  cases outcome <;> rfl

end ToolResult

/-! ## The receipt of a report -/

theorem Report.installed_receipt (report : Report) (finishedAt : String) :
    (report.receipt finishedAt).installed.length = report.installedCount := by
  have hstatus : (fun tool : ToolReceipt => decide (tool.status = .installed)) ∘
      ToolResult.receipt =
      ToolResult.isInstalled := funext ToolResult.receipt_status
  calc (report.receipt finishedAt).installed.length
      = (report.tools.filter ((fun tool : ToolReceipt => decide (tool.status = .installed)) ∘
          ToolResult.receipt)).length := by
        rw [Receipt.installed, receipt, List.filter_map, List.length_map]
    _ = report.installedCount := by rw [hstatus, installedCount]

theorem Report.toolRecords_receipt (report : Report) (finishedAt : String) :
    (report.receipt finishedAt).tools.map Command.toolRecord =
    report.tools.map ToolResult.told := by
  have htold : Command.toolRecord ∘ ToolResult.receipt = ToolResult.told :=
    funext ToolResult.toolRecord_receipt
  rw [receipt, List.map_map, htold]

namespace Command

open Session

variable {σ τ : Type}

/-! ## Keeping the receipt -/

theorem keepReceipt_of_saved {env : Environment} {receipt : Receipt} {dir : Path} {s : Session σ}
    (hdir : env.stateDir? = some dir)
    (hsave : (receipt.save s.disk (Receipt.path dir)).1 = .ok ()) :
    (keepReceipt env receipt).run s =
      ((), { s with disk := (receipt.save s.disk (Receipt.path dir)).2 }) := by
  unfold keepReceipt
  rw [hdir]
  dsimp only
  rw [run_bind, run_onDisk, hsave]
  rfl

theorem run_of_install_ok {around : Surroundings σ} {config : Config} {options : InstallOptions}
    {s : Session σ} (h : ((install around config options).run s).1 = .ok ()) :
    ∃ planned report after, plannedRun around.env config options = .ok planned ∧
      (planned.run around.git around.runner around.cloneTime config.tools options.ci).run s =
        (.ok report, after) := by
  cases hplanned : plannedRun around.env config options with
  | error fault =>
    rw [install_of_fault hplanned] at h
    cases h
  | ok planned =>
    obtain ⟨⟨failure | report, after⟩, hrun⟩ : ∃ result,
        (planned.run around.git around.runner around.cloneTime config.tools options.ci).run s =
          result :=
      ⟨_, rfl⟩
    · rw [install_of_failure hplanned hrun] at h
      cases h
    · exact ⟨planned, report, after, rfl, hrun⟩

/-! ## Telling what was kept -/

def receiptRecords (receipt : Receipt) : List Console.Record :=
  .status "asdf" (receipt.managerVersion ++ " at " ++ receipt.managerDir.display) ::
    (receipt.tools.map toolRecord ++ [.info (lastRunMessage receipt)])

theorem receiptRecords_receipt (report : Report) (finishedAt : String) :
    receiptRecords (report.receipt finishedAt) =
      .status "asdf" (report.managerVersion ++ " at " ++ report.managerDir.display) ::
        (report.tools.map ToolResult.told ++
          [.info (toString report.installedCount ++ " of " ++ toString report.tools.length ++
            " tool(s) installed, last run " ++ finishedAt)]) := by
  have hlength : (report.receipt finishedAt).tools.length = report.tools.length := List.length_map _
  rw [receiptRecords, lastRunMessage, report.toolRecords_receipt, report.installed_receipt, hlength]
  rfl

theorem tellReceipt_run (receipt : Receipt) (s : Session σ) :
    (tellReceipt receipt).run s =
      ((), { s with console := s.console ++ (receiptRecords receipt).map .record }) := by
  unfold tellReceipt
  rw [run_bind, run_say, run_bind, sayAll_run, run_say, receiptRecords]
  simp only [List.map_cons, List.map_append, List.map_nil, List.append_assoc, List.cons_append,
    List.nil_append]

theorem status_of_load {env : Environment} {receipt : Receipt} {dir : Path} {t : Session σ}
    (hdir : env.stateDir? = some dir)
    (hload : Receipt.load t.disk (Receipt.path dir) = .ok receipt) :
    (status env).run t =
      (.ok (), { t with console := t.console ++ (receiptRecords receipt).map .record }) := by
  -- What can be loaded is there, so the command goes on to load it.
  have hthere : t.disk.pathExists (Receipt.path dir) = true := by
    unfold Receipt.load at hload
    split at hload
    · cases hload
    rename_i text htext
    obtain ⟨data, hread, _⟩ := StartupFile.readText_ok htext
    exact Disk.pathExists_of_read hread
  unfold status
  rw [hdir]
  dsimp only
  rw [run_bind, run_look, hthere]
  simp only [Bool.not_true, Bool.false_eq_true, if_false]
  rw [run_bind, run_look, hload]
  dsimp only
  rw [run_bind, tellReceipt_run, run_pure]

theorem status_of_saved {env : Environment} {receipt : Receipt} {dir : Path} {disk : Disk}
    {t : Session σ} (hdir : env.stateDir? = some dir) (hformat : receipt.format < twoTo 32)
    (hsave : (receipt.save disk (Receipt.path dir)).1 = .ok ())
    (hsame : t.disk.read (Receipt.path dir) =
      (receipt.save disk (Receipt.path dir)).2.read (Receipt.path dir)) :
    (status env).run t =
      (.ok (), { t with console := t.console ++ (receiptRecords receipt).map .record }) := by
  have hsaved := receipt.save_spec disk (Receipt.path dir)
  rw [hsave] at hsaved
  refine status_of_load hdir (Receipt.load_of_read (hsaved.loads hformat) fun data hread => ?_)
  rw [hsame, hread]

/-! ## The law -/

/-- The install command and the status command agree. Once an installation has succeeded, its run
has one result for each tool in order, and its last word is how many of them were installed. If its
receipt was kept, and the file of it is as it was left, the status command in the same environment
tells the manager, one record for each result, and in the end the same two numbers. The installed
tools of a receipt are as many as those of the report that it is made of. -/
theorem install_status_agree (around : Surroundings σ) (config : Config) (options : InstallOptions)
    (s : Session σ) :
    let ran := (install around config options).run s
    (∀ (report : Report) (finishedAt : String),
        (report.receipt finishedAt).installed.length = report.installedCount) ∧
      (ran.1 = .ok () → ∃ planned report after, plannedRun around.env config options = .ok planned ∧
        (planned.run around.git around.runner around.cloneTime config.tools options.ci).run s =
          (.ok report, after) ∧
        report.tools.map ToolResult.tool = config.tools ∧
        ran.2.console.getLast? = some (.record (.success "Finished"
          (toString report.installedCount ++ "/" ++ toString config.tools.length ++
            " tool(s) installed"))) ∧
        ∀ dir, around.env.stateDir? = some dir →
          ((report.receipt around.finishedAt).save after.disk (Receipt.path dir)).1 = .ok () →
          ∀ t : Session τ,
            t.disk.read (Receipt.path dir) = ran.2.disk.read (Receipt.path dir) →
            (status around.env).run t = (.ok (), { t with
              console := t.console ++ (Console.Record.status "asdf"
                  (planned.manager.version ++ " at " ++ planned.manager.dir.display) ::
                (report.tools.map ToolResult.told ++
                  [.info (toString report.installedCount ++ " of " ++
                    toString config.tools.length ++ " tool(s) installed, last run " ++
                    around.finishedAt)])).map .record })) := by
  intro ran
  refine ⟨Report.installed_receipt, fun hok => ?_⟩
  obtain ⟨planned, report, after, hplanned, hrun⟩ := run_of_install_ok hok
  obtain ⟨hdir, hversion, htools, -⟩ := Bootstrap.run_reports hrun
  have hlength : report.tools.length = config.tools.length := by
    rw [← htools, List.length_map]
  have hran : ran = _ := install_of_report hplanned hrun
  refine ⟨planned, report, after, hplanned, hrun, htools, ?_, fun dir hstate hsave t hsame => ?_⟩
  · rw [hran]
    dsimp only
    rw [List.getLast?_append, finishedMessage, hlength]
    rfl
  · -- The last word leaves the disk as it is.
    have hdisk : ran.2.disk =
        ((report.receipt around.finishedAt).save after.disk (Receipt.path dir)).2 := by
      rw [hran, keepReceipt_of_saved hstate hsave]
    rw [hdisk] at hsame
    have hformat : (report.receipt around.finishedAt).format < twoTo 32 := by
      show 1 < twoTo 32
      decide
    rw [status_of_saved hstate hformat hsave hsame, receiptRecords_receipt, hdir, hversion, hlength]

/-- A host with its manager at the root, on which no release of the second tool is found. -/
def missingRelease : Surroundings Unit :=
  { env := ⟨[("HOME", Utf8.encode "/h"), ("XDG_STATE_HOME", Utf8.encode "/state")], none⟩
    git := LocalGit.library
    runner := Runner.scripted
      [("asdf install b 2.0.0", .error (.badSetting "unknown release")),
       ("a --version", .ok ⟨"a 1.0.0\n", ""⟩)]
    cloneTime := ⟨0, 0⟩
    finishedAt := "now" }

def twoTools : Config := ⟨⟨"/source", "v1", "/"⟩, [⟨"a", "1.0.0", none⟩, ⟨"b", "2.0.0", none⟩]⟩

/-- An installation of which one tool has failed, and what is told of it. -/
theorem install_status_agree_two_tools :
    let ran := (install missingRelease twoTools ⟨false, none, none, none⟩).run
      (Session.start (.ofEntries []) ())
    ran.1 = .ok () ∧
      ((status missingRelease.env).run (Session.start ran.2.disk ())).2.console =
        ([.status "asdf" "v1 at /", .success "a" "1.0.0 (a 1.0.0)",
          .warn "b 2.0.0 not installed: install: invalid configuration: unknown release",
          .info "1 of 2 tool(s) installed, last run now"] : List Console.Record).map .record := by
  dsimp only
  have hdone : ((install missingRelease twoTools ⟨false, none, none, none⟩).run
      (Session.start (.ofEntries []) ())).1.isOk = true := by decide +kernel
  obtain ⟨_, hagree⟩ := @install_status_agree Unit Unit missingRelease twoTools
    ⟨false, none, none, none⟩ (Session.start (.ofEntries []) ())
  -- From here on it does not matter how the command has come to its end.
  generalize (install missingRelease twoTools ⟨false, none, none, none⟩).run
    (Session.start (.ofEntries []) ()) = ran at hdone hagree ⊢
  have hok : ran.1 = .ok () := by
    generalize ran.1 = result at hdone ⊢
    cases result with
    | error fault => cases hdone
    | ok done => rfl
  obtain ⟨planned, report, after, hplanned, hrun, _, _, hstatus⟩ := hagree hok
  have hhost : (plannedRun missingRelease.env twoTools ⟨false, none, none, none⟩).toOption = some
      { manager := ⟨"/source", "v1", .ofText "/"⟩
        searchPath := .empty
        shell := .bash
        startupFile := .ofText "/h/.bashrc"
        ciFile := none } := by decide +kernel
  rw [hplanned] at hhost
  obtain rfl := Option.some.inj hhost
  generalize hmade : (Bootstrap.run _ missingRelease.git missingRelease.runner
    missingRelease.cloneTime twoTools.tools false).run (Session.start (.ofEntries []) ()) = made
    at hrun
  have hresults : made.1.map Report.tools = .ok
      [⟨⟨"a", "1.0.0", none⟩, .installed "a 1.0.0"⟩,
        ⟨⟨"b", "2.0.0", none⟩, .failed .install (.badSetting "unknown release")⟩] := by
    rw [← hmade]
    decide +kernel
  have hkept : made.1.map (fun report => ((report.receipt missingRelease.finishedAt).save
      made.2.disk (Receipt.path (.ofText "/state/asdf-bootstrap"))).1) = .ok (.ok ()) := by
    rw [← hmade]
    decide +kernel
  rw [hrun] at hresults hkept
  have htools := Except.ok.inj hresults
  have hcount : report.installedCount = 1 := by
    rw [Report.installedCount, htools]
    rfl
  have htold := hstatus _ (by decide +kernel) (Except.ok.inj hkept)
    (Session.start ran.2.disk ()) rfl
  refine ⟨hok, ?_⟩
  rw [htold, hcount, htools]
  dsimp only [Session.start]
  decide +kernel

end Command

end ToolBootstrap
