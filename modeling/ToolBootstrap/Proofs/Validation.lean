import Mathlib.Data.List.Nodup
import ToolBootstrap.Config.Issue
import ToolBootstrap.Proofs.VersionText

/- Configurations without issues.

   A configuration has no issue exactly if its manager has a repository and a version, there are
   tools, each of them is in order by itself, and no two have one name (`issues_eq_nil_iff`). The
   texts of such a tool are words: not empty, and without white space. -/

namespace ToolBootstrap

/-- A tool whose name, version and command are each in order. -/
structure Tool.Valid (tool : Tool) : Prop where
  name : Config.isToolName tool.name = true
  version : ∃ v, SemVer.parse tool.version = .ok v
  command : ∀ command, tool.command = some command → Config.isProgram command = true

namespace Config

/-! ## Issues -/

theorem flag_eq_nil_iff (condition : Bool) (problem : Problem) :
    flag condition problem = [] ↔ condition = false := by
  cases condition <;> simp [flag]

theorem versionProblems_eq_nil_iff (version : String) :
    versionProblems version = [] ↔ ∃ v, SemVer.parse version = .ok v := by
  unfold versionProblems
  cases SemVer.parse version with
  | ok v => simp
  | error fault => simp

theorem commandProblems_eq_nil_iff (command : Option String) :
    commandProblems command = [] ↔ ∀ given, command = some given → isProgram given = true := by
  cases command with
  | none => simp [commandProblems]
  | some given => simp [commandProblems, flag_eq_nil_iff]

theorem toolProblems_eq_nil_iff (seen : List String) (tool : Tool) :
    toolProblems seen tool = [] ↔ tool.Valid ∧ tool.name ∉ seen := by
  simp only [toolProblems, List.append_eq_nil_iff, flag_eq_nil_iff, versionProblems_eq_nil_iff,
    commandProblems_eq_nil_iff]
  constructor
  · intro ⟨⟨⟨hname, hseen⟩, hversion⟩, hcommand⟩
    exact ⟨⟨by simpa using hname, hversion, hcommand⟩, by simpa using hseen⟩
  · intro ⟨⟨hname, hversion, hcommand⟩, hseen⟩
    exact ⟨⟨⟨by simp [hname], by simpa using hseen⟩, hversion⟩, hcommand⟩

/-- Tools have no issue if each is in order, and none has a name that was seen before it. -/
theorem toolIssues_eq_nil_iff (seen : List String) (tools : List Tool) :
    toolIssues seen tools = [] ↔ (∀ tool ∈ tools, tool.Valid ∧ tool.name ∉ seen) ∧
      (tools.map Tool.name).Nodup := by
  induction tools generalizing seen with
  | nil => simp [toolIssues]
  | cons tool rest ih =>
    rw [toolIssues, List.append_eq_nil_iff, List.map_eq_nil_iff, toolProblems_eq_nil_iff, ih,
      List.map_cons, List.nodup_cons, List.forall_mem_cons]
    -- A name that is repeated is found seen at its second place, after its first one.
    constructor
    · intro ⟨hfirst, hrest, hnodup⟩
      refine ⟨⟨hfirst, fun other hother => ?_⟩, fun hmem => ?_, hnodup⟩
      · exact ⟨(hrest other hother).1, fun hseen => (hrest other hother).2 (by simp [hseen])⟩
      · obtain ⟨other, hother, hname⟩ := List.mem_map.mp hmem
        exact (hrest other hother).2 (by simp [hname])
    · intro ⟨⟨hfirst, hrest⟩, hfresh, hnodup⟩
      refine ⟨hfirst, fun other hother => ⟨(hrest other hother).1, fun hseen => ?_⟩, hnodup⟩
      rcases List.mem_cons.mp hseen with hname | hseen
      · exact hfresh (hname ▸ List.mem_map_of_mem hother)
      · exact (hrest other hother).2 hseen

theorem issues_eq_nil_iff (config : Config) : config.issues = [] ↔
    isAllBlank config.manager.repository = false ∧ isAllBlank config.manager.version = false ∧
      config.tools ≠ [] ∧ (∀ tool ∈ config.tools, tool.Valid) ∧
      (config.tools.map Tool.name).Nodup := by
  simp only [issues, generalProblems, List.append_eq_nil_iff, List.map_eq_nil_iff, flag_eq_nil_iff,
    toolIssues_eq_nil_iff, List.isEmpty_eq_false_iff, List.not_mem_nil, not_false_eq_true, and_true,
    and_assoc]

end Config

/-! ## Words -/

/-- A text that is one word of a command line: it is not empty, and holds no white space. -/
def IsWord (text : String) : Prop := text ≠ "" ∧ hasBlank text = false

theorem isWord_of_chars {text : String} (hne : text.toList ≠ [])
    (h : ∀ c ∈ text.toList, isBlank c = false) : IsWord text := by
  refine ⟨fun hempty => hne (by rw [hempty]; rfl), ?_⟩
  simpa [hasBlank] using h

theorem IsWord.not_blank {text : String} (h : IsWord text) {c : Char} (hc : c ∈ text.toList) :
    isBlank c = false := by
  have hall : ∀ c ∈ text.toList, isBlank c = false := by simpa [hasBlank] using h.2
  exact hall c hc

theorem isNameChar_not_blank {c : Char} (h : Config.isNameChar c = true) : isBlank c = false := by
  simp only [Config.isNameChar, Char.isAlphanum, Bool.or_eq_true, beq_iff_eq] at h
  rcases h with ((halpha | hdigit) | rfl) | rfl
  · have := isAlpha_range halpha
    exact isBlank_of_printed (by omega) (by omega)
  · have := isDigit_range hdigit
    exact isBlank_of_printed (by omega) (by omega)
  · decide
  · decide

theorem isWord_of_isToolName {name : String} (h : Config.isToolName name = true) : IsWord name := by
  simp only [Config.isToolName, Bool.and_eq_true, List.all_eq_true] at h
  refine isWord_of_chars (fun hnil => ?_) fun c hc => isNameChar_not_blank (h.2 c hc)
  simp [String.toList_eq_nil_iff.mp hnil] at h

theorem isWord_of_isProgram {command : String} (h : Config.isProgram command = true) :
    IsWord command := by
  simp only [Config.isProgram, Bool.and_eq_true, Bool.not_eq_true'] at h
  refine ⟨?_, h.2⟩
  intro he
  subst he
  cases h.1

section Valid

variable {tool : Tool}

theorem Tool.Valid.isWord_name (h : tool.Valid) : IsWord tool.name := isWord_of_isToolName h.name

theorem Tool.Valid.isWord_version (h : tool.Valid) : IsWord tool.version := by
  obtain ⟨v, hv⟩ := h.version
  have hspelling := SemVer.spelling_of_parse hv
  exact isWord_of_chars hspelling.ne_nil fun _ hc => hspelling.not_blank hc

theorem Tool.Valid.isWord_versionCommand (h : tool.Valid) : IsWord tool.versionCommand := by
  unfold Tool.versionCommand
  cases hc : tool.command with
  | none => exact h.isWord_name
  | some command => exact isWord_of_isProgram (h.command command hc)

end Valid

end ToolBootstrap
