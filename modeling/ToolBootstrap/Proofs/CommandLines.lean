import ToolBootstrap.Proofs.Opening
import ToolBootstrap.Proofs.Validation

/- The command lines of a run.

   Whatever comes of a run, its commands are fronts of the plans of its tools, one after the other
   (`run_fronts`). If the tools are those of a configuration without issues, the program and the
   arguments of every command are words: a command line is taken apart again at its spaces, and no
   two commands have one line. Only the first command of a plan adds a plugin, and no two tools have
   one name, so no plugin is added twice (`run_command_lines`). -/

namespace ToolBootstrap

/-! ## Lines of words -/

theorem words_of_line {call : Invocation} (h : ∀ word ∈ call.program :: call.args, IsWord word) :
    (call.line.toList.splitOn ' ').map String.ofList = call.program :: call.args := by
  have hsplit : call.line.toList.splitOn ' ' = (call.program :: call.args).map String.toList := by
    rw [Invocation.line, commandLine, String.toList_intercalate]
    refine List.splitOn_intercalate ' ' ?_ (by simp)
    -- A space is white space, of which words have none.
    intro word hword hspace
    obtain ⟨text, htext, rfl⟩ := List.mem_map.mp hword
    exact absurd ((h text htext).not_blank hspace) (by decide)
  rw [hsplit, List.map_map]
  exact (List.map_congr_left fun text _ => String.ofList_toList).trans (List.map_id _)

theorem eq_of_line_eq {call call' : Invocation} (hpath : call.path = call'.path)
    (h : ∀ word ∈ call.program :: call.args, IsWord word)
    (h' : ∀ word ∈ call'.program :: call'.args, IsWord word) (hline : call.line = call'.line) :
    call = call' := by
  have hwords : call.program :: call.args = call'.program :: call'.args :=
    calc call.program :: call.args
        = (call.line.toList.splitOn ' ').map String.ofList := (words_of_line h).symm
      _ = (call'.line.toList.splitOn ' ').map String.ofList := by rw [hline]
      _ = call'.program :: call'.args := words_of_line h'
  obtain ⟨program, args, path⟩ := call
  obtain ⟨program', args', path'⟩ := call'
  cases hwords
  cases hpath
  rfl

namespace Bootstrap

open Session

variable {σ : Type} {path : SearchPath} {tool : Tool}

/-! ## Fronts of plans -/

def commands (path : SearchPath) (tool : Tool) : List Invocation := (plan path tool).map Prod.snd

theorem Course.calls_front {stages : List Stage} {outcome : Outcome}
    (h : Course path tool stages outcome) : stages.map Stage.call <+: commands path tool := by
  have hcalls := h.front.map Prod.snd
  rwa [List.map_map] at hcalls

/-- A run hands over the front of each tool's commands, tool by tool, whatever comes of it. -/
theorem run_fronts (b : Bootstrap) (git : Git) (runner : Runner σ) (elapsed : Elapsed)
    (tools : List Tool) (ci : Bool) (s : Session σ) :
    ∃ fronts, List.Forall₂ (fun tool front => front <+: commands b.extendedPath tool) tools fronts ∧
      ((b.run git runner elapsed tools ci).run s).2.calls = s.calls ++ fronts.flatten := by
  cases hp : (b.persisted ci (b.managed git s.disk)).1 with
  | error failure =>
    obtain ⟨console, hrun⟩ := run_of_error hp runner elapsed tools
    -- Nothing has been handed over: every front is empty.
    refine ⟨tools.map fun _ => [], ?_, ?_⟩
    · rw [List.forall₂_map_right_iff, List.forall₂_same]
      exact fun _ _ => List.nil_prefix
    · rw [hrun, List.flatten_eq_nil_iff.mpr (by simp), List.append_nil]
  | ok startup =>
    obtain ⟨console, hrun⟩ := run_of_ok hp runner elapsed tools
    obtain ⟨courses, htools, hcourses, hcalls, _⟩ := installTools_run runner b.extendedPath tools
      { s with disk := b.ready git ci s.disk, console := console }
    refine ⟨courses.map fun stages => stages.map Stage.call, ?_, ?_⟩
    · rw [← htools, List.forall₂_map_left_iff, List.forall₂_map_right_iff]
      exact hcourses.imp fun _ _ hcourse => hcourse.calls_front
    · rw [hrun]
      dsimp only
      rw [hcalls, List.map_flatten]

theorem mem_fronts {tools : List Tool} {fronts : List (List Invocation)}
    (h : List.Forall₂ (fun tool front => front <+: commands path tool) tools fronts)
    {call : Invocation} (hcall : call ∈ fronts.flatten) :
    ∃ tool ∈ tools, call ∈ commands path tool := by
  induction h with
  | nil => cases hcall
  | @cons tool front rest fronts hfront _ ih =>
    rcases List.mem_append.mp (List.flatten_cons ▸ hcall) with hfirst | hothers
    · exact ⟨tool, List.mem_cons_self, hfront.subset hfirst⟩
    · obtain ⟨other, hother, hmem⟩ := ih hothers
      exact ⟨other, List.mem_cons_of_mem tool hother, hmem⟩

theorem commands_path {call : Invocation} (h : call ∈ commands path tool) : call.path = path := by
  obtain ⟨command, hcommand, rfl⟩ := List.mem_map.mp h
  exact plan_path hcommand

/-- The commands of a tool that is in order are commands of words. -/
theorem commands_words (hvalid : tool.Valid) {call : Invocation} (h : call ∈ commands path tool) :
    ∀ word ∈ call.program :: call.args, IsWord word := by
  have hname := hvalid.isWord_name
  have hversion := hvalid.isWord_version
  have hprogram := hvalid.isWord_versionCommand
  have hliteral : ∀ word ∈ [managerProgram, "plugin", "add", "install", "global", "--version"],
      IsWord word := by
    unfold IsWord
    decide
  simp only [List.forall_mem_cons] at hliteral
  obtain ⟨hmanager, hplugin, hadd, hinstall, hglobal, hask, _⟩ := hliteral
  simp only [commands, plan, List.map_cons, List.map_nil, List.mem_cons, List.not_mem_nil,
    or_false] at h
  -- Each of the four commands mixes words of its own with texts of the tool.
  rcases h with rfl | rfl | rfl | rfl
  · simp [hmanager, hplugin, hadd, hname]
  · simp [hmanager, hinstall, hname, hversion]
  · simp [hmanager, hglobal, hname, hversion]
  · simp [hprogram, hask]

/-! ## Plugins -/

/-- Whether a command adds the plugin of a name. -/
def adds (name : String) (call : Invocation) : Bool :=
  call.program == managerProgram && call.args == ["plugin", "add", name]

theorem countP_commands (path : SearchPath) (tool : Tool) (name : String) :
    (commands path tool).countP (adds name) = [tool.name].count name := by
  simp [commands, plan, adds, List.countP_cons, List.count_cons]

/-- A plugin is added no more often than there are tools of its name. -/
theorem countP_fronts {tools : List Tool} {fronts : List (List Invocation)}
    (h : List.Forall₂ (fun tool front => front <+: commands path tool) tools fronts)
    (name : String) : fronts.flatten.countP (adds name) ≤ (tools.map Tool.name).count name := by
  induction h with
  | nil => simp
  | @cons tool front rest fronts hfront _ ih =>
    -- A front holds no more than its plan does, and the plan adds one plugin.
    have hfirst : front.countP (adds name) ≤ [tool.name].count name := by
      rw [← countP_commands path]
      exact hfront.sublist.countP_le
    calc (front :: fronts).flatten.countP (adds name)
        = front.countP (adds name) + fronts.flatten.countP (adds name) := by
          rw [List.flatten_cons, List.countP_append]
      _ ≤ [tool.name].count name + (rest.map Tool.name).count name := Nat.add_le_add hfirst ih
      _ = ((tool :: rest).map Tool.name).count name := by
          rw [← List.count_append, List.singleton_append, List.map_cons]

/-! ## Runs -/

/-- The commands of a run whose tools have no issue. Every program and argument is a word, a command
line is taken apart again at its spaces, and different commands have different lines; and the plugin
of a name is added once at most. -/
theorem run_command_lines {config : Config} (hvalid : config.issues = []) (b : Bootstrap)
    (git : Git) (runner : Runner σ) (elapsed : Elapsed) (ci : Bool) (s : Session σ) :
    ∃ issued, ((b.run git runner elapsed config.tools ci).run s).2.calls = s.calls ++ issued ∧
      (∀ call ∈ issued, ∀ word ∈ call.program :: call.args, word ≠ "" ∧ hasBlank word = false) ∧
      (∀ call ∈ issued, (call.line.toList.splitOn ' ').map String.ofList =
        call.program :: call.args) ∧
      (∀ call ∈ issued, ∀ call' ∈ issued, call.line = call'.line → call = call') ∧
      ∀ name, issued.countP (fun call => call.program == managerProgram &&
        call.args == ["plugin", "add", name]) ≤ 1 := by
  obtain ⟨_, _, _, htools, hnames⟩ := (Config.issues_eq_nil_iff config).mp hvalid
  obtain ⟨fronts, hfronts, hcalls⟩ := b.run_fronts git runner elapsed config.tools ci s
  have hwords : ∀ call ∈ fronts.flatten, ∀ word ∈ call.program :: call.args, IsWord word := by
    intro call hcall
    obtain ⟨tool, htool, hmem⟩ := mem_fronts hfronts hcall
    exact commands_words (htools tool htool) hmem
  have hpath : ∀ call ∈ fronts.flatten, call.path = b.extendedPath := by
    intro call hcall
    obtain ⟨tool, _, hmem⟩ := mem_fronts hfronts hcall
    exact commands_path hmem
  refine ⟨fronts.flatten, hcalls, hwords, fun call hcall => words_of_line (hwords call hcall),
    fun call hcall call' hcall' hline => ?_, fun name => ?_⟩
  · exact eq_of_line_eq ((hpath call hcall).trans (hpath call' hcall').symm) (hwords call hcall)
      (hwords call' hcall') hline
  · exact (countP_fronts hfronts name).trans (List.nodup_iff_count_le_one.mp hnames name)

/-- Two tools without issues, of which one is asked for its version under another name. -/
theorem run_command_lines_two_tools :
    let config : Config :=
      ⟨ManagerPin.standard, [⟨"a", "1.0.0", none⟩, ⟨"b_2", "2.0.0-rc.1+x", some "b/bée"⟩]⟩
    let ran := (rootSetup.run LocalGit.library pluginsThere ⟨0, 0⟩ config.tools false).run
      (Session.start (.ofEntries []) ())
    config.issues = [] ∧
      ran.2.calls.map Invocation.line = ["asdf plugin add a", "asdf install a 1.0.0",
        "asdf global a 1.0.0", "a --version", "asdf plugin add b_2",
        "asdf install b_2 2.0.0-rc.1+x",
        "asdf global b_2 2.0.0-rc.1+x", "b/bée --version"] ∧
      ∀ call ∈ ran.2.calls, (call.line.toList.splitOn ' ').map String.ofList =
        call.program :: call.args := by
  intro config ran
  have hvalid : config.issues = [] := by decide +kernel
  have hlines : ran.2.calls.map Invocation.line = ["asdf plugin add a", "asdf install a 1.0.0",
      "asdf global a 1.0.0", "a --version", "asdf plugin add b_2", "asdf install b_2 2.0.0-rc.1+x",
      "asdf global b_2 2.0.0-rc.1+x", "b/bée --version"] := by decide +kernel
  refine ⟨hvalid, hlines, ?_⟩
  dsimp only [ran]
  obtain ⟨issued, hcalls, _, hsplit, _⟩ :=
    run_command_lines hvalid rootSetup LocalGit.library pluginsThere ⟨0, 0⟩ false
      (Session.start (.ofEntries []) ())
  rw [hcalls, start_calls, List.nil_append]
  exact hsplit

end Bootstrap

end ToolBootstrap
