import ToolBootstrap.Console
import ToolBootstrap.Proofs.Text

/- How the lines of a rendered record stand.

   A record is rendered as one line for each segment of its message (`segments_rendered`): the label
   column and a space stand in front of the first one, and as many spaces as the column is meant to
   be wide in front of the others. The column grows with a label that does not fit, and the spaces
   do not. So all segments start in one column exactly if the label fits or the message is a single
   line (`rendered_lines`); then the message is what is left of the lines without that column.
   Colours only put escapes around the label (`renderChars_colored`). -/

namespace ToolBootstrap.Console

/-! ## Escapes -/

/-- Escapes that switch colours: each of them is a number between the opening and an `m`. -/
inductive Escapes : List Char → Prop where
  | none : Escapes []
  | more {digits rest : List Char} : digits.all Char.isDigit = true → Escapes rest →
      Escapes ('\x1b' :: '[' :: digits ++ 'm' :: rest)

namespace Record

theorem marks_plain (kind : Kind) : marks kind false = ([], []) := rfl

theorem escapes_marks (kind : Kind) (colored : Bool) :
    Escapes (marks kind colored).1 ∧ Escapes (marks kind colored).2 := by
  have hone : ∀ digits : List Char, digits.all Char.isDigit = true →
      Escapes ('\x1b' :: '[' :: digits ++ ['m']) := fun digits h => .more h .none
  have htwo : ∀ digits digits' : List Char, digits.all Char.isDigit = true →
      digits'.all Char.isDigit = true →
      Escapes ('\x1b' :: '[' :: digits ++ 'm' :: ('\x1b' :: '[' :: digits' ++ ['m'])) :=
    fun digits digits' h h' => .more h (.more h' .none)
  cases colored with
  | false => exact ⟨.none, .none⟩
  | true =>
    refine ⟨?_, hone ['0'] rfl⟩
    cases kind with
    | pending => exact htwo ['1'] ['3', '6'] rfl rfl
    | success => exact htwo ['1'] ['3', '2'] rfl rfl
    | info => exact htwo ['1'] ['3', '4'] rfl rfl
    | warn => exact htwo ['1'] ['3', '3'] rfl rfl
    | error => exact htwo ['1'] ['3', '1'] rfl rfl

/-! ## Columns -/

def column (record : Record) : List Char := padLeft labelWidth record.label.toList

theorem length_padLeft (width : Nat) (cs : List Char) :
    (padLeft width cs).length = max width cs.length := by
  rw [padLeft, List.length_append, List.length_replicate]
  omega

theorem padLeft_nil (width : Nat) : padLeft width [] = List.replicate width ' ' := by
  rw [padLeft, List.append_nil]
  rfl

theorem feed_not_mem_padLeft {width : Nat} {cs : List Char} (h : '\n' ∉ cs) :
    '\n' ∉ padLeft width cs := by
  rw [padLeft, List.mem_append, List.mem_replicate]
  intro h
  rcases h with ⟨-, hfeed⟩ | hmem
  · exact absurd hfeed (by decide)
  · exact h hmem

/-! ## Lines -/

theorem segments_lineOf {front segment : List Char} (hfront : '\n' ∉ front)
    (hsegment : '\n' ∉ segment) (more : List Char) :
    segments (lineOf front segment ++ more) = (front ++ ' ' :: segment) :: segments more := by
  have hline : '\n' ∉ front ++ ' ' :: segment := by simp [hfront, hsegment]
  rw [lineOf, List.append_assoc]
  exact List.splitOn_append_cons_self_of_not_mem hline more

theorem segments_lines {front : List Char} (hfront : '\n' ∉ front) {parts : List (List Char)}
    (hparts : ∀ part ∈ parts, '\n' ∉ part) :
    segments (parts.flatMap (lineOf front)) =
      parts.map (fun part => front ++ ' ' :: part) ++ [[]] := by
  induction parts with
  | nil => rfl
  | cons part rest ih =>
    obtain ⟨hpart, hrest⟩ := List.forall_mem_cons.mp hparts
    rw [List.flatMap_cons, segments_lineOf hfront hpart, ih hrest]
    rfl

theorem segments_cons (cs : List Char) : ∃ first others, segments cs = first :: others :=
  List.exists_cons_of_ne_nil (List.splitOn_ne_nil '\n' cs)

/-- What stands behind the label column of a record. -/
def behindColumn (first : List Char) (others : List (List Char)) : List Char :=
  ' ' :: first ++ '\n' :: others.flatMap (lineOf (padLeft labelWidth []))

theorem renderChars_colored {record : Record} {first : List Char} {others : List (List Char)}
    (h : segments record.message.toList = first :: others) (colored : Bool) :
    record.renderChars colored = (marks record.kind colored).1 ++ record.column ++
      (marks record.kind colored).2 ++ behindColumn first others := by
  simp only [renderChars, h, lineOf, behindColumn, column, List.append_assoc, List.cons_append,
    List.nil_append]

theorem infix_render {record : Record} {part : List Char} (hfeed : '\n' ∉ part)
    (h : part <:+: record.message.toList) (colored : Bool) :
    part <:+: (record.render colored).toList := by
  obtain ⟨segment, hmem, hpart⟩ := exists_mem_splitOn hfeed h
  obtain ⟨first, others, hsegments⟩ := segments_cons record.message.toList
  have hbehind : segment <:+: behindColumn first others := by
    rw [show record.message.toList.splitOn '\n' = first :: others from hsegments] at hmem
    rcases List.mem_cons.mp hmem with rfl | hmem
    · exact List.infix_append [' '] _ _
    · have hline : segment <:+: lineOf (padLeft labelWidth []) segment :=
        ⟨padLeft labelWidth [] ++ [' '], ['\n'], by simp [lineOf]⟩
      exact hline.trans ((infix_flatMap _ hmem).trans
        ⟨' ' :: first ++ ['\n'], [], by simp [behindColumn]⟩)
  rw [render, String.toList_ofList, renderChars_colored hsegments]
  exact hpart.trans (hbehind.trans (List.suffix_append _ _).isInfix)

theorem segments_rendered {record : Record} {first : List Char} {others : List (List Char)}
    (hlabel : '\n' ∉ record.label.toList)
    (h : segments record.message.toList = first :: others) :
    segments (record.renderChars false) = (record.column ++ ' ' :: first) ::
      others.map (fun part => List.replicate labelWidth ' ' ++ ' ' :: part) ++ [[]] := by
  have hparts : ∀ part ∈ first :: others, '\n' ∉ part := by
    rw [← h]
    exact not_mem_of_mem_splitOn
  obtain ⟨hfirst, hothers⟩ := List.forall_mem_cons.mp hparts
  have hcolumn : '\n' ∉ record.column := feed_not_mem_padLeft hlabel
  have hspaces : '\n' ∉ padLeft labelWidth [] := feed_not_mem_padLeft List.not_mem_nil
  have hlines : record.renderChars false =
      lineOf record.column first ++ others.flatMap (lineOf (padLeft labelWidth [])) := by
    simp only [renderChars, h, marks_plain, column, List.nil_append, List.append_nil]
  rw [hlines, segments_lineOf hcolumn hfirst, segments_lines hspaces hothers, padLeft_nil]
  rfl

/-! ## Alignment -/

/-- Lines in which the segments of a message start behind a column of one width and a space. The
column of the first line is a label with spaces in front of it, and the columns of the others are
spaces. -/
def Aligned (width : Nat) (label : List Char) (parts lines : List (List Char)) : Prop :=
  ∃ filled first others, filled.length = width ∧
    (∃ n, filled = List.replicate n ' ' ++ label) ∧ parts = first :: others ∧
    lines = (filled ++ ' ' :: first) ::
      others.map fun part => List.replicate width ' ' ++ ' ' :: part

theorem Aligned.drop {width : Nat} {label : List Char} {parts lines : List (List Char)}
    (h : Aligned width label parts lines) : lines.map (List.drop (width + 1)) = parts := by
  have hbehind : ∀ filled part : List Char, filled.length = width →
      (filled ++ ' ' :: part).drop (width + 1) = part := by
    intro filled part hwidth
    rw [List.append_cons]
    exact List.drop_left' (by simp [hwidth])
  obtain ⟨filled, first, others, hwidth, -, rfl, rfl⟩ := h
  rw [List.map_cons, hbehind filled first hwidth, List.map_map]
  congr 1
  refine (List.map_congr_left fun part _ => ?_).trans (List.map_id others)
  exact hbehind _ part List.length_replicate

/-- The lines of a record are aligned exactly if its label fits, or its message is a single line. -/
theorem aligned_iff (record : Record) (first : List Char) (others : List (List Char)) :
    (∃ width, Aligned width record.label.toList (first :: others)
      ((record.column ++ ' ' :: first) ::
        others.map fun part => List.replicate labelWidth ' ' ++ ' ' :: part)) ↔
      record.label.toList.length ≤ labelWidth ∨ others = [] := by
  have hfilled : ∃ n, record.column = List.replicate n ' ' ++ record.label.toList := ⟨_, rfl⟩
  have hwidth : record.column.length = max labelWidth record.label.toList.length :=
    length_padLeft labelWidth record.label.toList
  constructor
  · intro ⟨width, filled, first', others', hlength, _, hparts, hlines⟩
    obtain ⟨rfl, rfl⟩ := List.cons_eq_cons.mp hparts
    obtain ⟨hfirst, hothers⟩ := List.cons_eq_cons.mp hlines
    -- The same segment stands behind both columns.
    have hcolumn : record.column = filled := List.append_cancel_right hfirst
    cases others with
    | nil => exact Or.inr rfl
    | cons part rest =>
      rw [List.map_cons, List.map_cons] at hothers
      have hspaces := congrArg List.length (List.cons_eq_cons.mp hothers).1
      simp only [List.length_append, List.length_replicate] at hspaces
      rw [← hlength, ← hcolumn, hwidth] at hspaces
      exact Or.inl (by omega)
  · intro h
    rcases h with hfits | rfl
    · rw [Nat.max_eq_left hfits] at hwidth
      exact ⟨labelWidth, record.column, first, others, hwidth, hfilled, rfl, rfl⟩
    · exact ⟨_, record.column, first, [], rfl, hfilled, rfl, rfl⟩

theorem others_eq_nil_iff {message first : List Char} {others : List (List Char)}
    (h : segments message = first :: others) : others = [] ↔ '\n' ∉ message := by
  constructor
  · intro he
    subst he
    have hnone : ∀ part ∈ segments message, '\n' ∉ part := not_mem_of_mem_splitOn
    have hwhole : ['\n'].intercalate (segments message) = message := List.intercalate_splitOn '\n'
    rw [h, List.intercalate_singleton] at hwhole
    rw [h, hwhole] at hnone
    exact hnone message List.mem_cons_self
  · intro hfeed
    have hone : segments message = [message] := List.splitOn_eq_singleton hfeed
    rw [h] at hone
    exact (List.cons_eq_cons.mp hone).2

/-- The text of a record whose label is one line. Colours put escapes around the label column.
Without them there is one line for each segment of the message, all segments start in one column
exactly if the label fits its column or the message is one line, and then the lines without that
column are the message. -/
theorem rendered_lines (record : Record) (h : '\n' ∉ record.label.toList) :
    (∃ filled rest, (record.render false).toList = filled ++ rest ∧
      (∃ n, filled = List.replicate n ' ' ++ record.label.toList) ∧
      ∀ colored, ∃ on off, Escapes on ∧ Escapes off ∧ (colored = false → on = [] ∧ off = []) ∧
        (record.render colored).toList = on ++ filled ++ off ++ rest) ∧
    ∃ lines, segments (record.render false).toList = lines ++ [[]] ∧
      lines.length = (segments record.message.toList).length ∧
      ((∃ width, Aligned width record.label.toList (segments record.message.toList) lines) ↔
        record.label.toList.length ≤ labelWidth ∨ '\n' ∉ record.message.toList) ∧
      ∀ width, Aligned width record.label.toList (segments record.message.toList) lines →
        ['\n'].intercalate (lines.map (List.drop (width + 1))) = record.message.toList := by
  obtain ⟨first, others, hsegments⟩ := segments_cons record.message.toList
  simp only [render, String.toList_ofList]
  refine ⟨⟨record.column, behindColumn first others, ?_, ⟨_, rfl⟩, fun colored => ?_⟩,
    _, segments_rendered h hsegments, ?_, ?_, fun width haligned => ?_⟩
  · rw [renderChars_colored hsegments, marks_plain, List.nil_append, List.append_nil]
  · obtain ⟨hon, hoff⟩ := escapes_marks record.kind colored
    refine ⟨_, _, hon, hoff, ?_, renderChars_colored hsegments colored⟩
    intro he
    subst he
    exact ⟨rfl, rfl⟩
  · rw [hsegments, List.length_cons, List.length_cons, List.length_map]
  · rw [hsegments, ← others_eq_nil_iff hsegments]
    exact aligned_iff record first others
  · rw [haligned.drop]
    exact List.intercalate_splitOn '\n'

/-- A label that just fits, in front of a message with an empty line: the message is found again
behind a column of twelve. -/
theorem rendered_lines_fitting :
    let record : Record := .success "caf\u00E9-au-lait" "1.0\n\n two"
    '\n' ∉ record.label.toList ∧
      record.render false = "caf\u00E9-au-lait 1.0\n             \n              two\n" ∧
      ∃ lines width, segments (record.render false).toList = lines ++ [[]] ∧
        Aligned width record.label.toList (segments record.message.toList) lines ∧
        ['\n'].intercalate (lines.map (List.drop (width + 1))) = "1.0\n\n two".toList := by
  intro record
  have hlabel : '\n' ∉ record.label.toList := by decide +kernel
  have hfits : record.label.toList.length ≤ labelWidth := by decide +kernel
  obtain ⟨-, lines, hlines, -, haligned, hback⟩ := rendered_lines record hlabel
  obtain ⟨width, hwidth⟩ := haligned.mpr (Or.inl hfits)
  exact ⟨hlabel, by decide +kernel, lines, width, hlines, hwidth, hback width hwidth⟩

/-- A label that does not fit: the second segment starts in another column than the first one. -/
theorem rendered_lines_overlong :
    let record : Record := .success "starknet-foundry" "0.38.2 (one\ntwo)"
    let lines := ["starknet-foundry 0.38.2 (one".toList, "             two)".toList]
    '\n' ∉ record.label.toList ∧ segments (record.render false).toList = lines ++ [[]] ∧
      ∀ width, ¬ Aligned width record.label.toList (segments record.message.toList) lines := by
  intro record lines
  have hlabel : '\n' ∉ record.label.toList := by decide +kernel
  have hsegments : segments record.message.toList = ["0.38.2 (one".toList, "two)".toList] := by
    decide +kernel
  refine ⟨hlabel, by decide +kernel, fun width haligned => ?_⟩
  have hnot : ¬ (record.label.toList.length ≤ labelWidth ∨ ["two)".toList] = []) := by
    decide +kernel
  have hlines : lines = (record.column ++ ' ' :: "0.38.2 (one".toList) ::
      ["two)".toList].map fun part => List.replicate labelWidth ' ' ++ ' ' :: part := by
    decide +kernel
  rw [hsegments, hlines] at haligned
  exact hnot ((aligned_iff record _ _).mp ⟨width, haligned⟩)

end Record

end ToolBootstrap.Console
