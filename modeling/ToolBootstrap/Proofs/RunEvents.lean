import ToolBootstrap.Proofs.Narration
import ToolBootstrap.Proofs.RecordLayout

/- What a completed run tells, from its first record to its last.

   A run tells of events, each by one record (`Event.record`), on the stream that `Event.isWarning`
   says. Which events there are can be read off the report: one for the manager, one for the search
   path and one for its persistence (`opening_console`), and then those of each tool's result in
   order (`installTools_console`). So the tools that a run tells it could not install are those that
   its report does not count (`countP_isRefusal`), and every pinned version can be read on the
   standard output (`run_narrates`). -/

namespace ToolBootstrap.Bootstrap

open Session

variable {σ : Type}

/-! ## Events -/

/-- What a run tells of. -/
inductive Event where
  | managed (result : Except Failure Manager.State)
  | pathExtended
  | persistedForCi
  | persistedForShell (result : Except Failure StartupFile.Update)
  | installing (tool : Tool)
  | unexpected (tool : Tool) (report : String)
  | installed (tool : Tool) (report : String)
  | refused (tool : Tool) (failure : Failure)

namespace Event

def record (b : Bootstrap) (elapsed : Elapsed) : Event → Console.Record
  | managed (.ok .alreadyPresent) => .info ("asdf already exists at " ++ b.manager.dir.display)
  | managed (.ok .cloned) =>
    .success "Cloned" ("asdf " ++ b.manager.version ++ " into " ++ b.manager.dir.display ++
      " in " ++ elapsed.text)
  | managed (.error failure) =>
    .warn ("could not clone asdf " ++ b.manager.version ++ ": " ++ failure.message)
  | pathExtended =>
    .status "Path" ("added " ++ " and ".intercalate (b.manager.pathDirs.map Path.display))
  | persistedForCi => .success "Persisted" "PATH to the CI environment file"
  | persistedForShell (.ok .appended) =>
    .success "Updated" (b.startupFile.display ++ " sources asdf")
  | persistedForShell (.ok .alreadyPresent) =>
    .info (b.startupFile.display ++ " already sources asdf")
  | persistedForShell (.error failure) =>
    .warn ("could not update " ++ b.startupFile.display ++ ": " ++ failure.message)
  | installing tool => announced tool
  | unexpected tool report => Bootstrap.unexpected tool report
  | installed tool report => confirmed tool report
  | refused tool failure => .warn ("could not install " ++ tool.name ++ ": " ++ failure.message)

/-- The events that are warned of: what went wrong without ending the run. -/
def isWarning : Event → Bool
  | managed (.error _) | persistedForShell (.error _) | unexpected .. | refused .. => true
  | _ => false

def isRefusal : Event → Bool
  | refused .. => true
  | _ => false

theorem onStderr_record (b : Bootstrap) (elapsed : Elapsed) (event : Event) :
    (event.record b elapsed).kind.onStderr = event.isWarning := by
  cases event with
  | managed result =>
    cases result with
    | error failure => rfl
    | ok state => cases state <;> rfl
  | persistedForShell result =>
    cases result with
    | error failure => rfl
    | ok update => cases update <;> rfl
  | pathExtended | persistedForCi | installing | unexpected | installed | refused => rfl

end Event

/-- The events of a tool's installation. -/
def happened (result : ToolResult) : List Event :=
  match result.outcome with
  | .installed report =>
    .installing result.tool ::
      ((if mentionsVersion report result.tool.version then []
        else [.unexpected result.tool report]) ++ [.installed result.tool report])
  | .failed _ failure => [.installing result.tool, .refused result.tool failure]

/-- The event of persisting the search path. -/
def persistence (b : Bootstrap) (ci : Bool) (disk : Disk) : Event :=
  if ci then .persistedForCi
  else .persistedForShell (StartupFile.ensureLines b.startupFile (Manager.startupMarker b.shell)
    (b.manager.startupLines b.shell) disk).1

/-- The events before the first tool. -/
def prepared (b : Bootstrap) (git : Git) (ci : Bool) (disk : Disk) : List Event :=
  [.managed (b.manager.ensureInstalled git disk).1, .pathExtended,
    b.persistence ci (b.managed git disk)]

def narration (b : Bootstrap) (elapsed : Elapsed) (events : List Event) : List Console.Record :=
  events.map (Event.record b elapsed)

theorem narration_append (b : Bootstrap) (elapsed : Elapsed) (first second : List Event) :
    b.narration elapsed (first ++ second) =
      b.narration elapsed first ++ b.narration elapsed second := List.map_append

theorem told_eq (b : Bootstrap) (elapsed : Elapsed) (result : ToolResult) :
    told result = b.narration elapsed (happened result) := by
  unfold told happened
  cases result.outcome with
  | failed step failure => rfl
  | installed report =>
    dsimp only
    cases mentionsVersion report result.tool.version <;> rfl

/-! ## The opening -/

theorem ensureManager_console (b : Bootstrap) (git : Git) (elapsed : Elapsed) (s : Session σ) :
    ((b.ensureManager git elapsed).run s).2.console = s.console ++
      (b.narration elapsed [.managed (b.manager.ensureInstalled git s.disk).1]).map .record := by
  unfold ensureManager
  rw [run_bind, run_onDisk]
  cases (b.manager.ensureInstalled git s.disk).1 with
  | error failure => rfl
  | ok state => cases state <;> rfl

theorem persistPath_console {b : Bootstrap} {ci : Bool} {s : Session σ}
    {startup : Option StartupFile.Update} (h : (b.persisted ci s.disk).1 = .ok startup)
    (elapsed : Elapsed) :
    ((b.persistPath ci).run s).2.console =
      s.console ++ (b.narration elapsed [b.persistence ci s.disk]).map .record := by
  cases ci with
  | true =>
    simp only [persisted, if_true] at h
    simp only [persistPath, persistForCi, if_true, run_bind, run_onDisk]
    cases hp : (CiFile.persist b.ciFile b.extendedPath s.disk).1 with
    | ok done => rfl
    | error failure =>
      rw [hp] at h
      cases h
  | false =>
    simp only [persistPath, persistForShell, persistence, Bool.false_eq_true, if_false, run_bind,
      run_onDisk]
    cases (StartupFile.ensureLines b.startupFile (Manager.startupMarker b.shell)
      (b.manager.startupLines b.shell) s.disk).1 with
    | error failure => rfl
    | ok update => cases update <;> rfl

theorem opening_console {b : Bootstrap} {git : Git} {ci : Bool} {s : Session σ}
    {startup : Option StartupFile.Update}
    (h : (b.persisted ci (b.managed git s.disk)).1 = .ok startup) (elapsed : Elapsed) :
    ((b.opening git elapsed ci).run s).2.console =
      s.console ++ (b.narration elapsed (b.prepared git ci s.disk)).map .record := by
  obtain ⟨first, hmanager⟩ := b.ensureManager_run git elapsed s
  have hfirst := b.ensureManager_console git elapsed s
  rw [hmanager] at hfirst
  dsimp only at hfirst
  have hpersist := persistPath_console (s := ⟨b.managed git s.disk, s.memory, s.calls,
    first ++ [.record (Event.pathExtended.record b elapsed)]⟩) h elapsed
  simp only [opening, announcePath, run_bind, hmanager, run_say, run_pure]
  refine hpersist.trans ?_
  rw [hfirst]
  simp only [List.append_assoc]
  rfl

/-! ## The tools -/

theorem installTools_console (b : Bootstrap) (elapsed : Elapsed) (runner : Runner σ)
    (path : SearchPath) (tools : List Tool) (s : Session σ) :
    ((installTools runner path tools).run s).2.console = s.console ++
      (b.narration elapsed (((installTools runner path tools).run s).1.flatMap happened)).map
        .record := by
  induction tools generalizing s with
  | nil => exact (List.append_nil s.console).symm
  | cons tool rest ih =>
    rw [installTools_cons_run, List.flatMap_cons, narration_append, List.map_append]
    dsimp only
    rw [ih, installTool_console, told_eq b elapsed, List.append_assoc]

theorem countP_happened (result : ToolResult) :
    (happened result).countP Event.isRefusal = if result.isInstalled then 0 else 1 := by
  unfold happened ToolResult.isInstalled
  cases result.outcome with
  | failed step failure => rfl
  | installed report =>
    dsimp only
    cases mentionsVersion report result.tool.version <;> rfl

theorem countP_isRefusal (results : List ToolResult) :
    (results.flatMap happened).countP Event.isRefusal +
      (results.filter ToolResult.isInstalled).length = results.length := by
  induction results with
  | nil => rfl
  | cons result rest ih =>
    rw [List.flatMap_cons, List.countP_append, countP_happened, List.filter_cons, List.length_cons]
    cases result.isInstalled <;> simp <;> omega

/-! ## Refusals in words -/

/-- A warning that begins with the words of a refusal. -/
def saysRefusal (record : Console.Record) : Bool :=
  record.kind == .warn && "could not install ".toList.isPrefixOf record.message.toList

/-- Only a program name that has them begins a report with the words of a refusal. -/
theorem begins_refusal {command rest : List Char}
    (h : "could not install ".toList <+: command ++ ' ' :: 'r' :: rest) :
    "could not install".toList <+: command := by
  -- The words do not go on in the report, but for the space that they end with.
  have hnowhere : ∀ more ∈ "could not install ".toList.tails, ¬ [' ', 'r'] <+: more := by
    decide +kernel
  have hwords : "could not install".toList ++ [' '] = "could not install ".toList := by
    decide +kernel
  obtain ⟨tail, htail⟩ := h
  rcases List.append_eq_append_iff.mp htail with ⟨after, hcommand, -⟩ | ⟨more, hmore, hrest⟩
  · rw [hcommand, ← hwords, List.append_assoc]
    exact List.prefix_append _ _
  · match more with
    | [] =>
      rw [List.append_nil] at hmore
      rw [← hmore, ← hwords]
      exact List.prefix_append _ _
    | [c] =>
      rw [← hwords] at hmore
      rw [(List.append_inj_left' hmore rfl)]
    | c :: c' :: others =>
      have hmem : c :: c' :: others ∈ "could not install ".toList.tails :=
        (List.mem_tails _ _).mpr ⟨command, hmore.symm⟩
      injection hrest with hspace hrest
      injection hrest with hr hrest
      subst hspace hr
      exact absurd ⟨others, rfl⟩ (hnowhere _ hmem)

theorem saysRefusal_record {b : Bootstrap} {elapsed : Elapsed} {event : Event}
    (h : ∀ tool report, event = .unexpected tool report →
      ¬ "could not install".toList <+: tool.versionCommand.toList) :
    saysRefusal (event.record b elapsed) = event.isRefusal := by
  have hwarn : ∀ message : String, saysRefusal (.warn message) = true ↔
      "could not install ".toList <+: message.toList :=
    fun message => List.isPrefixOf_iff_prefix
  cases event with
  | managed result =>
    cases result with
    | error failure =>
      apply Bool.eq_false_iff.mpr
      rw [Event.record, ne_eq, hwarn]
      simp
    | ok state => cases state <;> rfl
  | persistedForShell result =>
    cases result with
    | error failure =>
      apply Bool.eq_false_iff.mpr
      rw [Event.record, ne_eq, hwarn]
      simp
    | ok update => cases update <;> rfl
  | unexpected tool report =>
    apply Bool.eq_false_iff.mpr
    intro hsays
    have hbegins : "could not install ".toList <+: tool.versionCommand.toList ++
        ' ' :: 'r' :: ("eported ".toList ++ ((Quoted.text report).toList ++
          (", expected ".toList ++ tool.version.toList))) := by
      simpa using (hwarn _).mp hsays
    exact h tool report rfl (begins_refusal hbegins)
  | refused tool failure =>
    apply (hwarn _).mpr
    simp
  | pathExtended | persistedForCi | installing | installed => rfl

theorem countP_saysRefusal (b : Bootstrap) (elapsed : Elapsed) {events : List Event}
    (h : ∀ tool report, .unexpected tool report ∈ events →
      ¬ "could not install".toList <+: tool.versionCommand.toList) :
    (b.narration elapsed events).countP saysRefusal = events.countP Event.isRefusal := by
  rw [narration, List.countP_map]
  apply List.countP_congr
  intro event hevent
  rw [Function.comp_apply, saysRefusal_record]
  intro tool report heq
  exact h tool report (heq ▸ hevent)

theorem mem_of_unexpected {results : List ToolResult} {tool : Tool} {report : String}
    (h : .unexpected tool report ∈ results.flatMap happened) :
    tool ∈ results.map ToolResult.tool := by
  obtain ⟨result, hresult, hevent⟩ := List.mem_flatMap.mp h
  have htool : tool = result.tool := by
    unfold happened at hevent
    cases hout : result.outcome with
    | failed step failure => simp [hout] at hevent
    | installed text =>
      rw [hout] at hevent
      dsimp only at hevent
      cases hmentions : mentionsVersion text result.tool.version <;>
        simp [hmentions] at hevent
      exact hevent.1
  rw [htool]
  exact List.mem_map_of_mem hresult

/-! ## Whole runs -/

theorem run_console {b : Bootstrap} {git : Git} {runner : Runner σ} {elapsed : Elapsed}
    {tools : List Tool} {ci : Bool} {s s' : Session σ} {report : Report}
    (h : (b.run git runner elapsed tools ci).run s = (.ok report, s')) :
    s'.console = s.console ++ (b.narration elapsed
      (b.prepared git ci s.disk ++ report.tools.flatMap happened)).map .record := by
  obtain ⟨startup, hp⟩ : ∃ startup, (b.persisted ci (b.managed git s.disk)).1 = .ok startup :=
    ⟨_, (run_reports h).2.2.2.2⟩
  obtain ⟨console, hopening⟩ := b.opening_run git elapsed ci s
  have hconsole := opening_console hp elapsed
  rw [hopening] at hconsole
  dsimp only at hconsole
  rw [run_eq_opening, run_bind, hopening, hp] at h
  cases h
  rw [narration_append, List.map_append, ← List.append_assoc, ← hconsole]
  exact installTools_console b elapsed runner b.extendedPath tools _

theorem prepared_warnings (b : Bootstrap) {git : Git} {ci : Bool} {disk : Disk}
    {startup : Option StartupFile.Update}
    (h : (b.persisted ci (b.managed git disk)).1 = .ok startup) :
    ∃ manager persistence, b.prepared git ci disk = [manager, .pathExtended, persistence] ∧
      (manager.isWarning = true ↔ (b.manager.ensureInstalled git disk).1.toOption = none) ∧
      (persistence.isWarning = true ↔ ci = false ∧ startup = none) := by
  refine ⟨_, _, rfl, ?_, ?_⟩
  · cases (b.manager.ensureInstalled git disk).1 <;> simp [Event.isWarning, Except.toOption]
  · cases ci with
    | true => simp [persistence, Event.isWarning]
    | false =>
      simp only [persisted, persistence, Bool.false_eq_true, if_false, Except.ok.injEq] at h ⊢
      rw [← h]
      cases (StartupFile.ensureLines b.startupFile (Manager.startupMarker b.shell)
        (b.manager.startupLines b.shell) (b.managed git disk)).1 <;>
        simp [Event.isWarning, Except.toOption]

theorem announced_mem (b : Bootstrap) (elapsed : Elapsed) {results : List ToolResult} {tool : Tool}
    (h : tool ∈ results.map ToolResult.tool) :
    announced tool ∈ b.narration elapsed (results.flatMap happened) := by
  obtain ⟨result, hresult, rfl⟩ := List.mem_map.mp h
  have hfirst : .installing result.tool ∈ happened result := by
    unfold happened
    cases result.outcome <;> exact List.mem_cons_self
  exact List.mem_map_of_mem (f := Event.record b elapsed)
    (List.mem_flatMap.mpr ⟨result, hresult, hfirst⟩)

theorem infix_stream {records : List Console.Record} {record : Console.Record} {part : List Char}
    {stderr : Bool} (hmem : record ∈ records) (hstream : record.kind.onStderr = stderr)
    (hfeed : '\n' ∉ part) (h : part <:+: record.message.toList) :
    part <:+: (Console.stream (records.map .record) stderr).toList := by
  have hentry : Console.Entry.record record ∈
      (records.map Console.Entry.record).filter (·.onStderr == stderr) := by
    apply List.mem_filter.mpr
    exact ⟨List.mem_map_of_mem hmem, beq_iff_eq.mpr hstream⟩
  rw [Console.stream, String.toList_join]
  exact (Console.Record.infix_render hfeed h false).trans
    (infix_flatMap String.toList (List.mem_map_of_mem hentry))

/-- What a completed run tells can be read off its report: a record for the manager, one for the
search path and one for its persistence, and then for each tool in order the records of its result.
Each record is on the stream of its event. As many tools are told of as refused as the report does
not count, in the words of a refusal too unless a program is named with them. Every tool is
announced on the standard output with its pinned version, which can be read there line by line. -/
theorem run_narrates {b : Bootstrap} {git : Git} {runner : Runner σ} {elapsed : Elapsed}
    {tools : List Tool} {ci : Bool} {s s' : Session σ} {report : Report}
    (h : (b.run git runner elapsed tools ci).run s = (.ok report, s')) :
    let events := b.prepared git ci s.disk ++ report.tools.flatMap happened
    let records := b.narration elapsed events
    s'.console = s.console ++ records.map .record ∧
      report.tools.map ToolResult.tool = tools ∧
      (∀ event : Event, (event.record b elapsed).kind.onStderr = event.isWarning) ∧
      (∃ manager persistence, b.prepared git ci s.disk = [manager, .pathExtended, persistence] ∧
        (manager.isWarning = true ↔ report.managerState = none) ∧
        (persistence.isWarning = true ↔ ci = false ∧ report.startup = none)) ∧
      events.countP Event.isRefusal + report.installedCount = tools.length ∧
      ((∀ tool ∈ tools, ¬ "could not install".toList <+: tool.versionCommand.toList) →
        records.countP saysRefusal + report.installedCount = tools.length) ∧
      ∀ tool ∈ tools, (announced tool ∈ records ∧ (announced tool).kind.onStderr = false ∧
          tool.version.toList <:+: (announced tool).message.toList) ∧
        ∀ part, '\n' ∉ part → part <:+: tool.version.toList →
          part <:+: (Console.stream (records.map .record) false).toList := by
  intro events records
  obtain ⟨-, -, htools, hstate, hp⟩ := run_reports h
  have hcount : events.countP Event.isRefusal + report.installedCount = tools.length := by
    have hprepared : (b.prepared git ci s.disk).countP Event.isRefusal = 0 := by
      cases ci <;> rfl
    rw [List.countP_append, hprepared, Nat.zero_add, ← htools, List.length_map]
    exact countP_isRefusal report.tools
  refine ⟨run_console h, htools, Event.onStderr_record b elapsed, ?_, hcount, fun hnames => ?_,
    fun tool htool => ?_⟩
  · rw [hstate]
    exact b.prepared_warnings hp
  · rw [countP_saysRefusal b elapsed, hcount]
    intro tool text hevent
    apply hnames
    rw [← htools]
    rcases List.mem_append.mp hevent with hopening | htold
    · cases ci <;> simp [prepared, persistence] at hopening
    · exact mem_of_unexpected htold
  · have hannounced : announced tool ∈ records := by
      rw [← htools] at htool
      have hlater := announced_mem b elapsed htool
      simp only [records, events, narration_append]
      exact List.mem_append_right _ hlater
    have hmessage : tool.version.toList <:+: (announced tool).message.toList :=
      ⟨(tool.name ++ " -v ").toList, "...".toList, by simp [announced, Console.Record.status]⟩
    refine ⟨⟨hannounced, rfl, hmessage⟩, fun part hfeed hpart => ?_⟩
    exact infix_stream hannounced rfl hfeed (hpart.trans hmessage)

/-- A run of two tools: one tells something else than its version, and the other one is refused. -/
theorem run_narrates_two_tools :
    let tools : List Tool := [⟨"a", "1", none⟩, ⟨"b", "2", none⟩]
    let ran := (rootSetup.run LocalGit.library pluginsThere ⟨0, 0⟩ tools false).run
      (Session.start (.ofEntries []) ())
    ∃ report, ran = (.ok report, ran.2) ∧ report.installedCount = 1 ∧
      Console.stream ran.2.console true = "     Warning a reported \"a 1\", expected 1\n" ++
        "     Warning could not install b: invalid configuration: unknown release\n" ∧
      (rootSetup.narration ⟨0, 0⟩ (rootSetup.prepared LocalGit.library false (.ofEntries []) ++
        report.tools.flatMap happened)).countP saysRefusal + report.installedCount = 2 := by
  intro tools ran
  have hreport : ran.1 = .ok
      { managerDir := ⟨[slash]⟩
        managerVersion := ""
        managerState := some .alreadyPresent
        searchPath := rootSetup.extendedPath
        startup := some .appended
        tools := [⟨⟨"a", "1", none⟩, .installed "a 1"⟩,
          ⟨⟨"b", "2", none⟩, .failed .install (.badSetting "unknown release")⟩] } := by
    decide +kernel
  have hstderr : Console.stream ran.2.console true =
      "     Warning a reported \"a 1\", expected 1\n" ++
        "     Warning could not install b: invalid configuration: unknown release\n" := by
    decide +kernel
  have hnames : ∀ tool ∈ tools, ¬ "could not install".toList <+: tool.versionCommand.toList := by
    decide +kernel
  obtain ⟨⟨result, after⟩, hran⟩ : ∃ r, ran = r := ⟨ran, rfl⟩
  rw [hran] at hreport hstderr ⊢
  dsimp only at hreport
  subst hreport
  obtain ⟨-, -, -, -, -, hsaid, -⟩ := run_narrates hran
  exact ⟨_, rfl, rfl, hstderr, hsaid hnames⟩

end ToolBootstrap.Bootstrap
