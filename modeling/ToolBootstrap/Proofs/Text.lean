import Mathlib.Data.List.Infix
import Mathlib.Data.List.TakeWhile
import ToolBootstrap.Text.Blank
import ToolBootstrap.Text.Lines

/- Searching, splitting and trimming texts.

   `occursIn` is the infix relation, and a mark without line ends stands on a line of a text exactly
   when it stands in the text (`exists_line_iff`): what the lines leave out, line feeds and the
   carriage returns before them, is never part of such a mark. -/

namespace ToolBootstrap

/-! ## Search -/

theorem occursIn_iff (part whole : List Char) : occursIn part whole = true ↔ part <:+: whole := by
  induction whole with
  | nil => simp [occursIn]
  | cons c rest ih =>
    rw [occursIn, Bool.or_eq_true, ih, List.isPrefixOf_iff_prefix, List.infix_cons_iff]

theorem contains_iff (text part : String) :
    contains text part = true ↔ part.toList <:+: text.toList := occursIn_iff _ _

/-! ## Splitting -/

section Split

variable {α : Type}

theorem infix_of_infix_concat {x : α} {run xs : List α} (hx : x ∉ run) (h : run <:+: xs ++ [x]) :
    run <:+: xs := by
  rcases List.infix_concat_iff.mp h with h | h
  · rcases List.suffix_concat_iff.mp h with rfl | ⟨front, rfl, _⟩
    · exact List.nil_infix
    · simp at hx
  · exact h

theorem infix_flatMap {β : Type} (f : β → List α) {b : β} {bs : List β} (h : b ∈ bs) :
    f b <:+: bs.flatMap f := by
  obtain ⟨front, back, rfl⟩ := List.append_of_mem h
  exact ⟨front.flatMap f, back.flatMap f, by simp⟩

theorem intercalate_cons_flatMap (x : α) (part : List α) (rest : List (List α)) :
    [x].intercalate (part :: rest) = part ++ rest.flatMap (x :: ·) := by
  induction rest generalizing part with
  | nil => simp
  | cons next others ih =>
    rw [List.intercalate_cons_cons, ih next, List.append_assoc]
    rfl

theorem intercalate_append_cons (x : α) (before : List (List α)) (part : List α)
    (after : List (List α)) : [x].intercalate (before ++ part :: after) =
      before.flatMap (· ++ [x]) ++ part ++ after.flatMap (x :: ·) := by
  induction before with
  | nil => exact intercalate_cons_flatMap x part after
  | cons first rest ih =>
    obtain ⟨next, others, hrest⟩ :=
      List.exists_cons_of_ne_nil
        (List.append_ne_nil_of_right_ne_nil rest (List.cons_ne_nil part after))
    rw [List.cons_append, hrest, List.intercalate_cons_cons, ← hrest, ih, List.flatMap_cons]
    simp only [List.append_assoc]

variable [BEq α]

theorem splitOn_cons_cases (x c : α) (rest : List α) :
    (c :: rest).splitOn x = [] :: rest.splitOn x ∨
      ∃ first others, rest.splitOn x = first :: others ∧
        (c :: rest).splitOn x = (c :: first) :: others := by
  rw [List.splitOn_cons_eq_if_modifyHead]
  split
  · exact Or.inl rfl
  · obtain ⟨first, others, hs⟩ := List.exists_cons_of_ne_nil (List.splitOn_ne_nil x rest)
    exact Or.inr ⟨first, others, hs, by rw [hs]; rfl⟩

theorem prefix_of_splitOn {x : α} {first xs : List α} {others : List (List α)}
    (h : xs.splitOn x = first :: others) : first <+: xs := by
  induction xs generalizing first others with
  | nil => simp at h; rw [h.1]
  | cons c rest ih =>
    rcases splitOn_cons_cases x c rest with hs | ⟨first', others', hs, hs'⟩
    · rw [hs] at h
      cases h
      exact List.nil_prefix
    · rw [hs'] at h
      cases h
      exact (List.prefix_cons_inj c).mpr (ih hs)

theorem infix_of_mem_splitOn {x : α} {piece xs : List α} (h : piece ∈ xs.splitOn x) :
    piece <:+: xs := by
  induction xs with
  | nil => simp at h; rw [h]
  | cons c rest ih =>
    rcases splitOn_cons_cases x c rest with hs | ⟨first, others, hs, hs'⟩
    · rw [hs] at h
      rcases List.mem_cons.mp h with rfl | h
      · exact List.nil_infix
      · exact List.infix_cons (ih h)
    · rw [hs'] at h
      rcases List.mem_cons.mp h with rfl | h
      · exact ((List.prefix_cons_inj c).mpr (prefix_of_splitOn hs)).isInfix
      · exact List.infix_cons (ih (by rw [hs]; exact List.mem_cons_of_mem _ h))

variable [LawfulBEq α]

/-- A run without the separator stands in one of the pieces. -/
theorem exists_mem_splitOn {x : α} {run xs : List α} (hx : x ∉ run) (h : run <:+: xs) :
    ∃ piece ∈ xs.splitOn x, run <:+: piece := by
  obtain ⟨before, after, rfl⟩ := h
  rw [List.append_assoc]
  induction before with
  | nil =>
    by_cases ha : x ∈ after
    · obtain ⟨tail, others, rfl, ht⟩ := List.eq_append_cons_of_mem ha
      have hrun : x ∉ run ++ tail := by simp [hx, ht]
      refine ⟨run ++ tail, ?_, (List.prefix_append run tail).isInfix⟩
      rw [List.nil_append, ← List.append_assoc, List.splitOn_append_cons_self_of_not_mem hrun]
      exact List.mem_cons_self
    · have hrun : x ∉ run ++ after := by simp [hx, ha]
      refine ⟨run ++ after, ?_, (List.prefix_append run after).isInfix⟩
      rw [List.nil_append, List.splitOn_eq_singleton hrun]
      exact List.mem_cons_self
  | cons c before ih =>
    obtain ⟨piece, hp, hi⟩ := ih
    rw [List.cons_append]
    rcases splitOn_cons_cases x c (before ++ (run ++ after)) with hs | ⟨first, others, hs, hs'⟩
    · exact ⟨piece, by rw [hs]; exact List.mem_cons_of_mem _ hp, hi⟩
    · rw [hs] at hp
      rcases List.mem_cons.mp hp with rfl | hp
      · exact ⟨c :: piece, by rw [hs']; exact List.mem_cons_self, List.infix_cons hi⟩
      · exact ⟨piece, by rw [hs']; exact List.mem_cons_of_mem _ hp, hi⟩

/-- The separator stands in none of the pieces. -/
theorem not_mem_of_mem_splitOn {x : α} {xs : List α} : ∀ piece ∈ xs.splitOn x, x ∉ piece := by
  induction xs with
  | nil => simp
  | cons c rest ih =>
    rw [List.splitOn_cons_eq_if_modifyHead]
    split
    · intro piece hp
      rcases List.mem_cons.mp hp with rfl | hp
      · exact List.not_mem_nil
      · exact ih piece hp
    · rename_i hc
      obtain ⟨first, others, hs⟩ := List.exists_cons_of_ne_nil (List.splitOn_ne_nil x rest)
      rw [hs] at ih ⊢
      intro piece hp
      rcases List.mem_cons.mp hp with rfl | hp
      · have hfirst := ih first List.mem_cons_self
        intro hx
        rcases List.mem_cons.mp hx with rfl | hx
        · simp at hc
        · exact hfirst hx
      · exact ih piece (List.mem_cons_of_mem _ hp)

theorem filter_splitOn_intercalate (x : α) {parts : List (List α)} (h : ∀ part ∈ parts, x ∉ part) :
    (([x].intercalate parts).splitOn x).filter (· ≠ []) = parts.filter (· ≠ []) := by
  cases parts with
  | nil => rfl
  | cons part rest => rw [List.splitOn_intercalate x h (by simp)]

end Split

/-! ## Lines -/

theorem lines_eq {cs last : List Char} {front : List (List Char)}
    (h : segments cs = front ++ [last]) :
    lines cs = front.map dropCarriageReturn ++ if last.isEmpty then [] else [last] := by
  simp only [lines, h, List.dropLast_concat, List.getLast?_concat]
  split
  · rw [List.append_nil]
  · rfl

theorem segments_eq_concat (cs : List Char) : ∃ front last, segments cs = front ++ [last] :=
  (List.eq_nil_or_concat' _).resolve_left (List.splitOn_ne_nil '\n' cs)

theorem dropCarriageReturn_part (part : List Char) : dropCarriageReturn part <:+: part := by
  unfold dropCarriageReturn
  split
  · exact (List.dropLast_prefix part).isInfix
  · exact List.infix_rfl

theorem infix_dropCarriageReturn {mark part : List Char} (hr : '\r' ∉ mark)
    (h : mark <:+: part) : mark <:+: dropCarriageReturn part := by
  unfold dropCarriageReturn
  split
  · rename_i hcr
    obtain ⟨front, rfl⟩ := List.getLast?_eq_some_iff.mp hcr
    rw [List.dropLast_concat]
    exact infix_of_infix_concat hr h
  · exact h

theorem infix_of_mem_lines {line cs : List Char} (h : line ∈ lines cs) : line <:+: cs := by
  obtain ⟨front, last, hs⟩ := segments_eq_concat cs
  rw [lines_eq hs] at h
  have hpart : ∀ part ∈ front ++ [last], part <:+: cs := by
    intro part hp
    rw [← hs] at hp
    exact infix_of_mem_splitOn hp
  rcases List.mem_append.mp h with h | h
  · obtain ⟨part, hp, rfl⟩ := List.mem_map.mp h
    exact (dropCarriageReturn_part part).trans (hpart part (List.mem_append_left _ hp))
  · split at h
    · simp at h
    · exact hpart line (List.mem_append_right _ h)

/-- A mark without line ends stands on a line exactly when it stands in the text. -/
theorem exists_line_iff {mark cs : List Char} (hne : mark ≠ []) (hn : '\n' ∉ mark)
    (hr : '\r' ∉ mark) : (∃ line ∈ lines cs, mark <:+: line) ↔ mark <:+: cs := by
  constructor
  · intro ⟨line, hl, hi⟩
    exact hi.trans (infix_of_mem_lines hl)
  · intro h
    obtain ⟨part, hp, hi⟩ := exists_mem_splitOn hn h
    obtain ⟨front, last, hs⟩ := segments_eq_concat cs
    rw [lines_eq hs]
    rw [show cs.splitOn '\n' = front ++ [last] from hs] at hp
    rcases List.mem_append.mp hp with hp | hp
    · exact ⟨dropCarriageReturn part, List.mem_append_left _ (List.mem_map_of_mem hp),
        infix_dropCarriageReturn hr hi⟩
    · simp only [List.mem_singleton] at hp
      subst hp
      cases part with
      | nil => exact absurd (List.infix_nil.mp hi) hne
      | cons c cs' => exact ⟨c :: cs', List.mem_append_right _ (by simp), hi⟩

/-! ## Runs -/

section Runs

variable {α : Type} {p : α → Bool}

/-- A list does not go on with an element of a class: it is empty, or starts with another one. -/
def Stops (p : α → Bool) (rest : List α) : Prop := ∀ c, rest.head? = some c → p c = false

theorem stops_nil : Stops p [] := fun _ h => by cases h

theorem stops_cons_iff {c : α} {rest : List α} : Stops p (c :: rest) ↔ p c = false := by
  simp [Stops]

theorem stops_append_iff {c : α} (hc : p c = false) {rest behind : List α} :
    Stops p (rest ++ c :: behind) ↔ Stops p rest := by
  cases rest with
  | nil => exact ⟨fun _ => stops_nil, fun _ => stops_cons_iff.mpr hc⟩
  | cons first rest => rw [List.cons_append, stops_cons_iff, stops_cons_iff]

theorem stops_dropWhile (p : α → Bool) (cs : List α) : Stops p (cs.dropWhile p) := by
  intro c hc
  have hstop := List.head?_dropWhile_not p cs
  rwa [hc] at hstop

variable {run rest : List α}

theorem takeWhile_run (hrun : ∀ c ∈ run, p c = true) (hrest : Stops p rest) :
    (run ++ rest).takeWhile p = run := by
  rw [List.takeWhile_append_of_pos hrun]
  cases rest with
  | nil => simp
  | cons c rest => simp [stops_cons_iff.mp hrest]

theorem dropWhile_run (hrun : ∀ c ∈ run, p c = true) (hrest : Stops p rest) :
    (run ++ rest).dropWhile p = rest := by
  rw [List.dropWhile_append_of_pos hrun]
  cases rest with
  | nil => rfl
  | cons c rest => simp [stops_cons_iff.mp hrest]

theorem run_unique {run' rest' : List α} (hrun : ∀ c ∈ run, p c = true) (hrest : Stops p rest)
    (hrun' : ∀ c ∈ run', p c = true) (hrest' : Stops p rest') (h : run ++ rest = run' ++ rest') :
    run = run' ∧ rest = rest' := by
  constructor
  · rw [← takeWhile_run hrun hrest, h, takeWhile_run hrun' hrest']
  · rw [← dropWhile_run hrun hrest, h, dropWhile_run hrun' hrest']

end Runs

/-! ## Numerals -/

theorem isDigit_range {c : Char} (h : c.isDigit = true) : 0x30 ≤ c.toNat ∧ c.toNat ≤ 0x39 := by
  simp only [Char.isDigit, Bool.and_eq_true, decide_eq_true_eq, ge_iff_le,
    UInt32.le_iff_toNat_le] at h
  exact h

theorem toDigits_head {n : Nat} (h : n ≠ 0) :
    ∃ c tail, Nat.toDigits 10 n = c :: tail ∧ c ≠ '0' := by
  induction n using Nat.strongRecOn with
  | ind n ih =>
    by_cases hlt : n < 10
    · refine ⟨n.digitChar, [], Nat.toDigits_of_lt_base hlt, ?_⟩
      have hsmall : ∀ m < 10, m ≠ 0 → Nat.digitChar m ≠ '0' := by decide
      exact hsmall n hlt h
    · obtain ⟨c, tail, heq, hc⟩ := ih (n / 10) (by omega) (by omega)
      rw [Nat.toDigits_of_base_le (by decide) (Nat.le_of_not_lt hlt), heq]
      exact ⟨c, _, rfl, hc⟩

theorem isDigit_of_toDigits {n : Nat} {c : Char} (h : c ∈ Nat.toDigits 10 n) : c.isDigit = true :=
  Nat.isDigit_of_mem_toDigits (by decide) (by decide) h

/-! ## Trimming -/

theorem trimChars_eq_nil_iff (cs : List Char) : trimChars cs = [] ↔ cs.all isBlank = true := by
  simp only [trimChars, List.reverse_eq_nil_iff, List.dropWhile_eq_nil_iff, List.mem_reverse,
    List.all_eq_true]
  constructor
  · intro h c hc
    rw [← List.takeWhile_append_dropWhile (p := isBlank) (l := cs)] at hc
    rcases List.mem_append.mp hc with hc | hc
    · exact List.mem_takeWhile_imp hc
    · exact h c hc
  · exact fun h c hc => h c ((List.dropWhile_sublist _).subset hc)

theorem trim_isEmpty (text : String) : (trim text).isEmpty = isAllBlank text := by
  rw [Bool.eq_iff_iff, isAllBlank, ← trimChars_eq_nil_iff, trim]
  simp

end ToolBootstrap
