import ToolBootstrap.Config.Basic
import ToolBootstrap.Proofs.PathText

/- Directories below the home directory.

   A directory can be put below the home directory in two spellings: as a relative text, which is
   joined to the home directory, and with `~/` in front, for which the home directory is shown as a
   text first. The first one always leads below the home directory. The second one leads to the same
   place exactly if the home directory is a text, and is absolute or the working directory itself
   (`resolveDir_tilde`): what is shown of octets that are no text is another path, and a relative
   home directory is put in front twice. -/

namespace ToolBootstrap

open ToolBootstrap.Path (ofText steps componentOf)

/-! ## Expansion -/

namespace Expansion

theorem expandVariables_of_not_mem (env : Environment) {cs : List Char} (h : '$' ∉ cs) :
    expandVariables env cs = .ok cs := by
  unfold expandVariables
  induction cs with
  | nil => rfl
  | cons c rest ih =>
    obtain ⟨hc, hrest⟩ := not_or.mp (fun hmem => h (List.mem_cons.mpr hmem))
    have hne : c ≠ '$' := fun heq => hc heq.symm
    rw [List.length_cons, variablesWithin]
    · rw [ih hrest]
      rfl
    · exact hne

/-- A text that lies below some directory by itself: it names no variable, and starts neither at the
home directory nor at the root. -/
structure IsRelative (text : String) : Prop where
  noVariable : '$' ∉ text.toList
  noTilde : text.toList.head? ≠ some '~'
  noRoot : text.toList.head? ≠ some '/'

instance (text : String) : Decidable (IsRelative text) :=
  decidable_of_iff ('$' ∉ text.toList ∧ text.toList.head? ≠ some '~' ∧ text.toList.head? ≠ some '/')
    ⟨fun h => ⟨h.1, h.2.1, h.2.2⟩, fun h => ⟨h.noVariable, h.noTilde, h.noRoot⟩⟩

variable (env : Environment) (home : Path) {text : String} (h : IsRelative text)
include h

theorem directory_relative : directory env home text = .ok (home.join (ofText text)) := by
  simp only [directory, expand, expandVariables_of_not_mem env h.noVariable, if_neg h.noTilde,
    String.ofList_toList]
  rfl

theorem directory_tilde : directory env home ("~/" ++ text) =
    .ok (home.join (ofText (home.display ++ "/" ++ text))) := by
  have hchars : ("~/" ++ text).toList = '~' :: '/' :: text.toList := String.toList_append
  have hplain : '$' ∉ ("~/" ++ text).toList := by
    rw [hchars]
    simp [h.noVariable]
  have hfront : ("~/" ++ text).toList.head? = some '~' := by rw [hchars]; rfl
  have hreplaced : String.ofList (tilde home.display.toList ("~/" ++ text).toList) =
      home.display ++ "/" ++ text := by
    rw [hchars, ← String.toList_inj, String.toList_ofList]
    simp [tilde]
  simp only [directory, expand, expandVariables_of_not_mem env hplain, if_pos hfront, hreplaced]
  rfl

theorem isAbsolute_relative : (ofText text).isAbsolute = false := by
  rw [Path.isAbsolute, beq_eq_false_iff_ne]
  exact fun hhead => h.noRoot ((Utf8.head?_encode_iff text).mp hhead)

end Expansion

namespace Path

/-! ## Leads -/

theorem lead_eq_root_iff {p : Path} : p.split.1 = some .root ↔ p.isAbsolute = true := by
  unfold split
  split
  · rename_i hs
    exact absurd hs (List.splitOn_ne_nil slash p.octets)
  · split_ifs with habs hdot <;> simp [habs]

/-- A path that names nothing, and is neither absolute nor empty, is the working directory. -/
theorem same_dot_iff {p : Path} (hne : p.octets ≠ []) :
    p.same ⟨dotName⟩ = true ↔ p.isAbsolute = false ∧ steps p.octets = [] := by
  have hdot : (⟨dotName⟩ : Path).split.1 = some .here ∧ steps dotName = [] := by decide
  rw [same_iff, hdot.1, hdot.2]
  constructor
  · intro ⟨hlead, hnone⟩
    refine ⟨?_, hnone⟩
    by_contra habs
    rw [lead_eq_root_iff.mpr (by simpa using habs)] at hlead
    cases hlead
  · intro ⟨hrel, hnone⟩
    refine ⟨?_, hnone⟩
    rcases p.split_cases with hroot | hhere | ⟨hlead, first, rest, hrest, hdot, hempty⟩
    · rw [lead_eq_root_iff, hrel] at hroot
      cases hroot
    · exact hhere
    · -- Without a lead the first run is a name, unless the path is empty.
      rw [steps_eq, hrest] at hnone
      by_cases hfirst : first = []
      · obtain ⟨hoctets, -⟩ := p.split_spec
        rw [hlead, hrest, hfirst, hempty hfirst] at hoctets
        exact absurd hoctets hne
      · rw [kept_cons (by simp [hfirst, hdot])] at hnone
        cases hnone

/-! ## The home directory as a text -/

theorem octet_of_steps_nil {octets : Bytes} (h : steps octets = []) :
    ∀ x ∈ octets, x = slash ∨ x ∈ dotName := by
  intro x hx
  by_cases hslash : x = slash
  · exact Or.inl hslash
  · obtain ⟨front, back, rfl⟩ := List.append_of_mem hx
    have hrun : [x] <:+: front ++ x :: back := ⟨front, back, by simp⟩
    obtain ⟨part, hpart, hin⟩ := exists_mem_splitOn (by simpa using Ne.symm hslash) hrun
    -- No part names anything, and this one is not empty.
    have hidle : part = [] ∨ part = dotName := by
      by_contra hname
      have hmem : part ∈ steps (front ++ x :: back) := mem_kept.mpr ⟨hpart, hname⟩
      rw [h] at hmem
      cases hmem
    rcases hidle with rfl | rfl
    · exact absurd (List.infix_nil.mp hin) (by simp)
    · exact Or.inr (hin.subset List.mem_cons_self)

/-- What is shown of a path and names nothing is the path. -/
theorem isText_of_steps_display {p : Path} (h : steps (Utf8.encode p.display) = []) :
    p.IsText := by
  apply Utf8.isText_of_no_replacement
  intro hmem
  have hoctet : 0xEF ∈ Utf8.encode p.display :=
    List.mem_flatMap.mpr ⟨'\uFFFD', hmem, by decide⟩
  exact absurd (octet_of_steps_nil h _ hoctet) (by decide)

theorem display_ne_nil {p : Path} (hne : p.octets ≠ []) : Utf8.encode p.display ≠ [] := by
  intro hnil
  have htext : p.IsText := isText_of_steps_display (by rw [hnil]; rfl)
  rw [(encode_display_iff p).mpr htext] at hnil
  exact hne hnil

theorem isAbsolute_append_slash {x : Bytes} (hne : x ≠ []) (y : Bytes) :
    (⟨x ++ slash :: y⟩ : Path).isAbsolute = (⟨x⟩ : Path).isAbsolute := by
  obtain ⟨first, rest, rfl⟩ := List.exists_cons_of_ne_nil hne
  rfl

theorem steps_display_iff (p : Path) :
    steps (Utf8.encode p.display) = steps p.octets ↔ p.IsText := by
  constructor
  · intro h
    have hshown : (ofText p.display).IsText := Utf8.isText_encode p.display
    rw [isText_iff_steps] at hshown ⊢
    rwa [← h]
  · intro h
    rw [(encode_display_iff p).mpr h]

theorem steps_display_nil_iff (p : Path) :
    steps (Utf8.encode p.display) = [] ↔ p.IsText ∧ steps p.octets = [] := by
  constructor
  · intro h
    have htext := isText_of_steps_display h
    exact ⟨htext, by rw [← (steps_display_iff p).mpr htext, h]⟩
  · intro ⟨htext, hnone⟩
    rw [(steps_display_iff p).mpr htext, hnone]

/-! ## Both spellings -/

section Spellings

variable {home x : Path} (hhome : home.octets ≠ []) (hx : x.isAbsolute = false)
include hhome hx

/-- A path below what is shown of the home directory, joined to the home directory, leads below the
home directory exactly if what is shown is right, and there is no way to go twice. -/
theorem join_display_same_iff :
    (home.join ⟨Utf8.encode home.display ++ slash :: x.octets⟩).same (home.join x) = true ↔
      home.IsText ∧ (home.isAbsolute = true ∨ home.same ⟨dotName⟩ = true) := by
  have hshown : (⟨Utf8.encode home.display ++ slash :: x.octets⟩ : Path).isAbsolute =
      home.isAbsolute :=
    (isAbsolute_append_slash (display_ne_nil hhome) x.octets).trans (isAbsolute_display home)
  rw [same_iff, lead_join hx hhome, steps_join hx]
  cases habs : home.isAbsolute with
  | true =>
    -- The shown path replaces the home directory.
    rw [habs] at hshown
    rw [join, if_pos hshown, lead_eq_root_iff.mpr hshown, lead_eq_root_iff.mpr habs,
      steps_append_slash, List.append_left_inj, steps_display_iff]
    simp
  | false =>
    -- The shown path is put behind the home directory.
    rw [habs] at hshown
    rw [lead_join hshown hhome, steps_join hshown, steps_append_slash, ← List.append_assoc,
      List.append_left_inj, List.append_right_eq_self, steps_display_nil_iff, same_dot_iff hhome]
    simp [habs]

theorem components_join : (home.join x).components =
    home.components ++ (steps x.octets).map componentOf := by
  rw [components_eq, components_eq, lead_join hx hhome, steps_join hx, List.map_append,
    List.append_assoc]

end Spellings

end Path

/-! ## The configured directory -/

namespace ManagerPin

/-- Below a home directory, a relative text and the same text behind `~/` both lead to a directory.
For the first one it is the place below the home directory. For the second one it is this place
exactly if the home directory is a text, and is absolute or the working directory. -/
theorem resolveDir_tilde (pin : ManagerPin) (env : Environment) {home : Path}
    (hhome : home.octets ≠ []) {text : String} (h : Expansion.IsRelative text) :
    ∃ below tilde, { pin with dir := text }.resolveDir env home = .ok below ∧
      { pin with dir := "~/" ++ text }.resolveDir env home = .ok tilde ∧
      below = home.join (ofText text) ∧
      below.components = home.components ++ (steps (Utf8.encode text)).map componentOf ∧
      (tilde.same below = true ↔
        home.IsText ∧ (home.isAbsolute = true ∨ home.same ⟨dotName⟩ = true)) := by
  have hrel := Expansion.isAbsolute_relative h
  refine ⟨home.join (ofText text), home.join (ofText (home.display ++ "/" ++ text)), ?_, ?_, rfl,
    Path.components_join hhome hrel, ?_⟩
  · simp only [resolveDir, Expansion.directory_relative env home h]
  · simp only [resolveDir, Expansion.directory_tilde env home h]
  · have hoctets : ofText (home.display ++ "/" ++ text) =
        ⟨Utf8.encode home.display ++ slash :: (ofText text).octets⟩ := by
      rw [ofText, Utf8.encode_append, Utf8.encode_append, List.append_assoc]
      rfl
    rw [hoctets]
    exact Path.join_display_same_iff hhome hrel

/-- An absolute home directory in an odd spelling, with a name that is no plain ASCII: both texts
lead to one place. -/
theorem resolveDir_tilde_odd_spelling :
    let home := ofText "//home/./jos\u00E9//"
    let pin (text : String) : ManagerPin := ⟨"", "", text⟩
    home.octets ≠ [] ∧ Expansion.IsRelative "tools/./asdf" ∧
      ∃ below tilde, (pin "tools/./asdf").resolveDir .empty home = .ok below ∧
        (pin "~/tools/./asdf").resolveDir .empty home = .ok tilde ∧
        below = ofText "//home/./jos\u00E9//tools/./asdf" ∧ tilde.same below = true := by
  intro home pin
  have hhome : home.octets ≠ [] := by decide +kernel
  have hrelative : Expansion.IsRelative "tools/./asdf" := by decide +kernel
  obtain ⟨below, tilde, hbelow, htilde, hplace, -, hsame⟩ :=
    resolveDir_tilde (pin "") .empty hhome hrelative
  have hspelled : home.join (ofText "tools/./asdf") =
    ofText "//home/./jos\u00E9//tools/./asdf" := by
    decide +kernel
  have htext : home.IsText ∧ home.isAbsolute = true := by decide +kernel
  exact ⟨hhome, hrelative, below, tilde, hbelow, htilde, hplace.trans hspelled,
    hsame.mpr ⟨htext.1, Or.inl htext.2⟩⟩

/-- A home directory that is no text is replaced by what is shown of it, and a relative one is put
in front twice, so that the text behind `~/` leads elsewhere. -/
theorem resolveDir_tilde_elsewhere :
    let pin (text : String) : ManagerPin := ⟨"", "", text⟩
    let octets : Path := ⟨Utf8.encode "/caf" ++ [0xE9]⟩
    ((pin "x").resolveDir .empty octets = .ok ⟨Utf8.encode "/caf" ++ [0xE9] ++ Utf8.encode "/x"⟩ ∧
      (pin "~/x").resolveDir .empty octets = .ok (ofText "/caf\uFFFD/x") ∧
      (ofText "/caf\uFFFD/x").same ⟨Utf8.encode "/caf" ++ [0xE9] ++ Utf8.encode "/x"⟩ = false) ∧
    (pin "x").resolveDir .empty (ofText "h") = .ok (ofText "h/x") ∧
      (pin "~/x").resolveDir .empty (ofText "h") = .ok (ofText "h/h/x") ∧
      (ofText "h/h/x").same (ofText "h/x") = false := by
  decide +kernel

end ManagerPin

end ToolBootstrap
