import Mathlib.Data.Finset.Card
import ToolBootstrap.Proofs.Validation

/- The issues of a configuration.

   The issues of a tool are those of its own and, where a tool before it has its name, one more
   (`countP_toolProblems`). So along the tools the repeated names and the distinct ones add up to
   the tools themselves (`countP_toolIssues`): their number can be told from the names alone, and
   the order of the tools does not matter to it. -/

namespace ToolBootstrap

def IsName (text : String) : Prop :=
  text ≠ "" ∧ ∀ c ∈ text.toList, c.isAlphanum = true ∨ c = '-' ∨ c = '_'

/-- The text of a semantic version, whose numbers are within the limit. -/
def IsVersion (text : String) : Prop := ∃ v : SemVer.Version, v.Legal ∧ text.toList = v.text

/-- What is wrong with a tool that comes after tools with the names `seen`. -/
def Tool.Has (seen : List String) (tool : Tool) : Problem → Prop
  | .badName => ¬ IsName tool.name
  | .repeatedName => tool.name ∈ seen
  | .badVersion version fault => version = tool.version ∧ SemVer.parse version = .error fault
  | .badCommand command => tool.command = some command ∧ ¬ IsWord command
  | .noRepository | .noManagerVersion | .noTools => False

/-- What is asked of a configuration. -/
structure Config.Sound (config : Config) : Prop where
  repository : ∃ c ∈ config.manager.repository.toList, isBlank c = false
  managerVersion : ∃ c ∈ config.manager.version.toList, isBlank c = false
  tools : config.tools ≠ []
  distinct : (config.tools.map Tool.name).Nodup
  name : ∀ tool ∈ config.tools, IsName tool.name
  version : ∀ tool ∈ config.tools, IsVersion tool.version
  command : ∀ tool ∈ config.tools, ∀ command, tool.command = some command → IsWord command

namespace Config

/-! ## Texts -/

theorem isToolName_iff {name : String} : isToolName name = true ↔ IsName name := by
  have hempty : name.isEmpty = false ↔ name ≠ "" := by
    rw [← Bool.not_eq_true, String.isEmpty_iff]
  simp only [isToolName, IsName, isNameChar, Bool.and_eq_true, Bool.not_eq_true', hempty,
    List.all_eq_true, Bool.or_eq_true, beq_iff_eq, or_assoc]

theorem isAllBlank_eq_false_iff {text : String} :
    isAllBlank text = false ↔ ∃ c ∈ text.toList, isBlank c = false := by
  simp [isAllBlank]

theorem isProgram_iff {command : String} : isProgram command = true ↔ IsWord command := by
  refine ⟨isWord_of_isProgram, fun h => ?_⟩
  rw [isProgram, h.2, Bool.not_false, Bool.and_true, Bool.not_eq_true', isAllBlank_eq_false_iff]
  -- A word has a first character, which is not blank, as none of it is.
  have hne : command.toList ≠ [] := fun hnil => h.1 (String.toList_eq_nil_iff.mp hnil)
  exact ⟨command.toList.head hne, List.head_mem hne, h.not_blank (List.head_mem hne)⟩

theorem parse_ok_iff_isVersion {version : String} :
    (∃ v, SemVer.parse version = .ok v) ↔ IsVersion version := by
  simp only [SemVer.parse_ok_iff, IsVersion, and_comm]

theorem valid_iff {tool : Tool} : tool.Valid ↔ IsName tool.name ∧ IsVersion tool.version ∧
    ∀ command, tool.command = some command → IsWord command := by
  simp only [← isToolName_iff, ← isProgram_iff, ← parse_ok_iff_isVersion]
  exact ⟨fun h => ⟨h.name, h.version, h.command⟩, fun h => ⟨h.1, h.2.1, h.2.2⟩⟩

theorem issues_eq_nil_iff_sound (config : Config) : config.issues = [] ↔ config.Sound := by
  simp only [issues_eq_nil_iff, isAllBlank_eq_false_iff, valid_iff]
  constructor
  · intro ⟨hrepository, hversion, htools, hvalid, hdistinct⟩
    exact ⟨hrepository, hversion, htools, hdistinct, fun tool htool => (hvalid tool htool).1,
      fun tool htool => (hvalid tool htool).2.1, fun tool htool => (hvalid tool htool).2.2⟩
  · intro h
    exact ⟨h.repository, h.managerVersion, h.tools,
      fun tool htool => ⟨h.name tool htool, h.version tool htool, h.command tool htool⟩, h.distinct⟩

/-! ## The problems of one tool -/

theorem mem_flag_iff {condition : Bool} {problem told : Problem} :
    told ∈ flag condition problem ↔ condition = true ∧ told = problem := by
  cases condition <;> simp [flag]

theorem mem_versionProblems_iff {version : String} {problem : Problem} :
    problem ∈ versionProblems version ↔
      ∃ fault, SemVer.parse version = .error fault ∧ problem = .badVersion version fault := by
  unfold versionProblems
  cases SemVer.parse version <;> simp

theorem mem_commandProblems_iff {command : Option String} {problem : Problem} :
    problem ∈ commandProblems command ↔
      ∃ given, command = some given ∧ ¬ IsWord given ∧ problem = .badCommand given := by
  cases command with
  | none => simp [commandProblems]
  | some given => simp [commandProblems, mem_flag_iff, ← isProgram_iff]

theorem mem_toolProblems_iff {seen : List String} {tool : Tool} {problem : Problem} :
    problem ∈ toolProblems seen tool ↔ tool.Has seen problem := by
  simp only [toolProblems, List.mem_append, mem_flag_iff, mem_versionProblems_iff,
    mem_commandProblems_iff, Bool.not_eq_true', ← Bool.not_eq_true, isToolName_iff,
    List.contains_iff_mem]
  cases problem with
  | badVersion version fault =>
    simp only [Tool.Has, reduceCtorEq, and_false, false_or, or_false, exists_const,
      Problem.badVersion.injEq]
    constructor
    · rintro ⟨_, hparse, rfl, rfl⟩
      exact ⟨rfl, hparse⟩
    · rintro ⟨rfl, hparse⟩
      exact ⟨fault, hparse, rfl, rfl⟩
  | _ => simp [Tool.Has]

theorem nodup_toolProblems (seen : List String) (tool : Tool) : (toolProblems seen tool).Nodup := by
  -- Each of its four parts tells at most one problem, and of a kind of its own.
  unfold toolProblems versionProblems commandProblems flag
  cases SemVer.parse tool.version <;> cases tool.command <;> dsimp only <;> split_ifs <;> simp

/-! ## The issues of all tools -/

/-- Which names were seen matters, and not in which order. -/
theorem toolProblems_congr {seen seen' : List String} (h : ∀ name, name ∈ seen ↔ name ∈ seen')
    (tool : Tool) : toolProblems seen tool = toolProblems seen' tool := by
  have hcontains : seen.contains tool.name = seen'.contains tool.name := by
    rw [Bool.eq_iff_iff, List.contains_iff_mem, List.contains_iff_mem, h]
  rw [toolProblems, hcontains]
  rfl

/-- The issues of tools are their problems one after the other, each with its tool's name. -/
theorem toolIssues_eq (seen : List String) (tools : List Tool) :
    toolIssues seen tools = (tools.mapIdx fun i tool =>
      (toolProblems ((tools.take i).map Tool.name ++ seen) tool).map
        (Issue.mk (some tool.name))).flatten := by
  induction tools generalizing seen with
  | nil => rfl
  | cons tool rest ih =>
    rw [toolIssues, ih, List.mapIdx_cons, List.flatten_cons, List.take_zero, List.map_nil,
      List.nil_append]
    congr 2
    apply congrArg (List.mapIdx · rest)
    funext i other
    -- On one side the first name stands behind those that follow it, and on the other before them.
    rw [List.take_succ_cons, List.map_cons]
    refine congrArg (List.map _) (toolProblems_congr (fun name => ?_) other)
    simp only [List.mem_append, List.mem_cons]
    tauto

theorem countP_toolProblems {p : Problem → Bool} (hp : p .repeatedName = true) (seen : List String)
    (tool : Tool) : (toolProblems seen tool).countP p =
      (toolProblems [] tool).countP p + if tool.name ∈ seen then 1 else 0 := by
  have hrepeated : ∀ seen : List String, (flag (seen.contains tool.name) .repeatedName).countP p =
      if tool.name ∈ seen then 1 else 0 := by
    intro seen
    by_cases h : tool.name ∈ seen <;> simp [flag, h, hp]
  simp only [toolProblems, List.countP_append, hrepeated, List.not_mem_nil, if_false]
  omega

theorem card_cons (name : String) (names : List String) :
    (name :: names).toFinset.card + (if name ∈ names then 1 else 0) = names.toFinset.card + 1 := by
  rw [List.toFinset_cons, Finset.card_insert_eq_ite]
  simp only [List.mem_toFinset]
  split_ifs <;> rfl

/-- The issues that repeated names add, and the distinct names, are as many as there are tools. -/
theorem countP_toolIssues {p : Problem → Bool} (hp : p .repeatedName = true) (seen : List String)
    (tools : List Tool) :
    (toolIssues seen tools).countP (fun issue => p issue.problem) +
        (seen ++ tools.map Tool.name).toFinset.card =
      (tools.flatMap (toolProblems [])).countP p + tools.length + seen.toFinset.card := by
  induction tools generalizing seen with
  | nil => simp [toolIssues]
  | cons tool rest ih =>
    have hown : ((toolProblems seen tool).map (Issue.mk (some tool.name))).countP
        (fun issue => p issue.problem) = (toolProblems seen tool).countP p := by
      rw [List.countP_map]
      rfl
    have hnames : (seen ++ (tool :: rest).map Tool.name).toFinset =
        (tool.name :: seen ++ rest.map Tool.name).toFinset :=
      List.toFinset_eq_of_perm _ _ List.perm_middle
    have hrest := ih (tool.name :: seen)
    -- A name that was seen makes one issue more, and any other one distinct name more.
    have hcard := card_cons tool.name seen
    rw [toolIssues, List.countP_append, hown, countP_toolProblems hp, hnames, List.flatMap_cons,
      List.countP_append, List.length_cons]
    omega

/-! ## The issues of a configuration -/

theorem message_repeatedName_iff {problem : Problem} :
    problem.message = "tool is listed more than once" ↔ problem = .repeatedName := by
  -- Texts that are put together differ from this one in their first letter.
  have hfirst : ∀ text : String, text = "tool is listed more than once" →
      text.toList.head? = some 't' := by
    intro _ he
    subst he
    decide
  cases problem with
  | repeatedName => exact iff_of_true rfl rfl
  | badVersion version fault =>
    refine iff_of_false (fun h => ?_) nofun
    have hhead := hfirst _ h
    unfold Problem.message at hhead
    simp at hhead
  | badCommand command =>
    refine iff_of_false (fun h => ?_) nofun
    have hhead := hfirst _ h
    unfold Problem.message at hhead
    simp at hhead
  | _ => exact iff_of_false (by decide) nofun

/-- Listed again is told of as many tools as there are more tools than names. -/
theorem countP_listed_again (config : Config) :
    config.issues.countP (fun issue => issue.problem.message = "tool is listed more than once") +
      (config.tools.map Tool.name).toFinset.card = config.tools.length := by
  have hgeneral : (config.generalProblems.map (Issue.mk none)).countP
      (fun issue => issue.problem = .repeatedName) = 0 := by
    simp only [List.countP_eq_zero, generalProblems, List.mem_map, List.mem_append, mem_flag_iff]
    rintro _ ⟨problem, ((⟨-, rfl⟩ | ⟨-, rfl⟩) | ⟨-, rfl⟩), rfl⟩ <;> simp
  have hown : (config.tools.flatMap (toolProblems [])).countP (· = .repeatedName) = 0 := by
    rw [List.countP_eq_zero]
    intro problem hproblem hrepeated
    obtain ⟨tool, -, hproblem⟩ := List.mem_flatMap.mp hproblem
    obtain rfl := of_decide_eq_true hrepeated
    cases mem_toolProblems_iff.mp hproblem
  have hcount := countP_toolIssues (p := (· = .repeatedName)) (by decide) [] config.tools
  simp only [hown, List.nil_append, List.toFinset_nil, Finset.card_empty] at hcount
  simp only [message_repeatedName_iff, issues, List.countP_append, hgeneral]
  omega

theorem length_issues_perm {config : Config} {tools : List Tool} (h : tools.Perm config.tools) :
    (issues { config with tools := tools }).length = config.issues.length := by
  have hgeneral : generalProblems { config with tools := tools } = config.generalProblems := by
    rw [generalProblems, generalProblems, List.Perm.isEmpty_eq h]
  have hcount := fun tools => countP_toolIssues (p := fun _ => true) rfl [] tools
  simp only [List.countP_true, List.nil_append] at hcount
  have hnames : (tools.map Tool.name).toFinset = (config.tools.map Tool.name).toFinset :=
    List.toFinset_eq_of_perm _ _ (h.map _)
  have hown : (tools.flatMap (toolProblems [])).length =
      (config.tools.flatMap (toolProblems [])).length := (h.flatMap_right _).length_eq
  have hissues := hcount tools
  rw [hnames, hown, h.length_eq, ← hcount config.tools] at hissues
  simp only [issues, hgeneral, List.length_append, Nat.add_right_cancel hissues]

/-- The issues of a configuration. There is none exactly if the configuration is sound. Those of the
whole configuration come first, and those of its tools follow in their order, each with the name of
its tool: what is told of a tool is what it has, behind the names of the tools before it, and
nothing twice. The tools that are listed again and the distinct names add up to all tools; and in
another order the tools have as many issues. -/
theorem issues_law (config : Config) :
    (config.issues = [] ↔ config.Sound) ∧
    config.issues = config.generalProblems.map (Issue.mk none) ++
      (config.tools.mapIdx fun i tool =>
        (toolProblems ((config.tools.take i).map Tool.name) tool).map
          (Issue.mk (some tool.name))).flatten ∧
    (∀ seen tool, (toolProblems seen tool).Nodup ∧
      ∀ problem, problem ∈ toolProblems seen tool ↔ tool.Has seen problem) ∧
    config.issues.countP (fun issue => issue.problem.message = "tool is listed more than once") +
      (config.tools.map Tool.name).toFinset.card = config.tools.length ∧
    ∀ tools : List Tool, tools.Perm config.tools →
      (issues { config with tools := tools }).length = config.issues.length := by
  refine ⟨issues_eq_nil_iff_sound config, ?_, fun seen tool => ?_, countP_listed_again config,
    fun tools => length_issues_perm⟩
  · simp only [issues, toolIssues_eq, List.append_nil]
  · exact ⟨nodup_toolProblems seen tool, fun _ => mem_toolProblems_iff⟩

/-- Two tools, each listed twice, of which one is wrong in every way. -/
theorem issues_law_twice :
    let sound : Tool := ⟨"a", "1.0.0+b", some "c"⟩
    let wrong : Tool := ⟨"a b", "1.0", some "c d"⟩
    let config : Config := ⟨.standard, [sound, wrong, wrong, sound]⟩
    let tools := [wrong, sound, sound, wrong]
    tools.Perm config.tools ∧
      (issues { config with tools := tools }).length = config.issues.length ∧
      config.issues.length = 8 ∧ ¬ config.Sound ∧ Config.standard.Sound ∧
      config.issues.countP
        (fun issue => issue.problem.message = "tool is listed more than once") = 2 := by
  intro sound wrong config tools
  have hperm : tools.Perm config.tools := by decide
  have hlength : config.issues.length = 8 := by decide +kernel
  obtain ⟨hsound, -, -, hcount, hlaw⟩ := issues_law config
  have hnames : (config.tools.map Tool.name).toFinset.card = 2 := by decide +kernel
  refine ⟨hperm, hlaw tools hperm, hlength, fun h => ?_, ?_, ?_⟩
  · rw [hsound.mpr h] at hlength
    cases hlength
  · exact (issues_law Config.standard).1.mp (by decide +kernel)
  · rw [hnames] at hcount
    exact Nat.add_right_cancel (m := 2) hcount

end Config

end ToolBootstrap
