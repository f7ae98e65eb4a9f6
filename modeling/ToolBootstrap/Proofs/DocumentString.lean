import ToolBootstrap.Toml.Writer

/- Strings of a document are read back as they were written.

   There is one lemma for each of the four forms, and `string?_writeChars` for the form that the
   writer chooses. Escapes are read alike in both basic forms (`Unescapes`), and lines in both forms
   of several lines (`ReadsLines`). There a quote may be part of the text or of the closing quotes:
   a run of three never stands in the text, and up to two at its end are told from the closing ones
   by what follows these. -/

namespace ToolBootstrap.Toml

/-! ## Escapes -/

/-- A reading function for strings that understands escapes. -/
structure Unescapes (read : List Char → Option (List Char × List Char)) : Prop where
  letter {c x : Char} (rest : List Char) : escaped? c = some x →
    read ('\\' :: c :: rest) = push x (read rest)
  number (a b c d : Char) (rest : List Char) :
    read ('\\' :: 'u' :: a :: b :: c :: d :: rest) = pushScalar [a, b, c, d] (read rest)

theorem not_escaped {c x : Char} (h : escaped? c = some x) : c ≠ 'x' ∧ c ≠ 'u' ∧ c ≠ 'U' := by
  refine ⟨?_, ?_, ?_⟩
  all_goals
    intro he
    subst he
    cases h

theorem unescapes_basic : Unescapes basic where
  letter rest h := by
    obtain ⟨hx, hu, hU⟩ := not_escaped h
    rw [basic, h] <;> simp [hx, hu, hU]
  number a b c d rest := by rw [basic]

theorem unescapes_basicLines : Unescapes (basicLines false) where
  letter rest h := by
    obtain ⟨hx, hu, hU⟩ := not_escaped h
    rw [basicLines, h] <;> simp [hx, hu, hU]
  number a b c d rest := by rw [basicLines]

theorem scalar?_hexOctet : ∀ n < 0x80,
    scalar? (['0', '0'] ++ Quoted.hexOctet (UInt8.ofNat n)) = some (Char.ofNat n) := by
  decide +kernel

theorem Unescapes.control {read : List Char → Option (List Char × List Char)} (h : Unescapes read)
    {c : Char} (hc : isControl c = true) (rest : List Char) :
    read (escapeControl c ++ rest) = push c (read rest) := by
  unfold escapeControl
  split
  · subst c; exact h.letter rest rfl
  split
  · subst c; exact h.letter rest rfl
  split
  · subst c; exact h.letter rest rfl
  split
  · subst c; exact h.letter rest rfl
  split
  · subst c; exact h.letter rest rfl
  have hlt : c.toNat < 0x80 := by
    simp only [isControl, Bool.or_eq_true, decide_eq_true_eq, beq_iff_eq] at hc
    omega
  have hscalar := scalar?_hexOctet c.toNat hlt
  rw [Char.ofNat_toNat] at hscalar
  simp only [Quoted.hexOctet, List.cons_append, List.nil_append] at hscalar ⊢
  rw [h.number, pushScalar, hscalar]

/-! ## Strings on one line -/

theorem isPlain_of_not_control {c : Char} (h : ¬ isControl c = true) : isPlain c = true := by
  simp only [isControl, isPlain, Bool.or_eq_true, decide_eq_true_eq, beq_iff_eq, Bool.and_eq_true,
    not_or] at h ⊢
  exact Or.inr ⟨Nat.le_of_not_lt h.1, h.2⟩

theorem basic_plain {c : Char} (rest : List Char) (hquote : c ≠ '"') (hslash : c ≠ '\\')
    (h : isPlain c = true) : basic (c :: rest) = push c (basic rest) := by
  rw [basic] <;> simp [hquote, hslash, h]

theorem basic_basicBody (cs rest : List Char) :
    basic (basicBody cs ++ '"' :: rest) = some (cs, rest) := by
  induction cs with
  | nil => rfl
  | cons c cs ih =>
    have hread : basic (basicBody (c :: cs) ++ '"' :: rest) =
        push c (basic (basicBody cs ++ '"' :: rest)) := by
      rw [basicBody, List.flatMap_cons, List.append_assoc]
      split
      · rename_i h
        rcases h with rfl | rfl
        · exact unescapes_basic.letter _ rfl
        · exact unescapes_basic.letter _ rfl
      rename_i hmark
      split
      · rename_i hcontrol
        exact unescapes_basic.control hcontrol _
      · rename_i hcontrol
        exact basic_plain _ (fun h => hmark (Or.inl h)) (fun h => hmark (Or.inr h))
          (isPlain_of_not_control hcontrol)
    rw [hread, ih]
    rfl

theorem literal_raw {cs : List Char} (h : ∀ c ∈ cs, c ≠ '\'' ∧ isPlain c = true)
    (rest : List Char) : literal (cs ++ '\'' :: rest) = some (cs, rest) := by
  induction cs with
  | nil => rfl
  | cons c cs ih =>
    obtain ⟨hquote, hplain⟩ := h c List.mem_cons_self
    rw [List.cons_append, literal, if_pos hplain, ih fun x hx => h x (List.mem_cons_of_mem c hx)]
    · rfl
    · exact fun heq => hquote heq

/-! ## Strings of several lines -/

/-- A text does not start with two copies of a mark. -/
def NotTwo (mark : Char) (cs : List Char) : Prop := ∀ rest, cs ≠ mark :: mark :: rest

theorem notTwo_of_head {mark c : Char} (h : c ≠ mark) (rest : List Char) :
    NotTwo mark (c :: rest) := by
  intro tail heq
  cases heq
  exact h rfl

theorem notTwo_of_second {mark c : Char} (h : c ≠ mark) (rest : List Char) :
    NotTwo mark (mark :: c :: rest) := by
  intro tail heq
  cases heq
  exact h rfl

/-- A reading function for strings of several lines. Besides its quotes it may keep one character
for its escapes. Up to two quotes in front of the closing ones are part of the text. -/
structure ReadsLines (mark : Char) (escape : Option Char)
    (read : List Char → Option (List Char × List Char)) : Prop where
  quote {rest : List Char} : NotTwo mark rest → read (mark :: rest) = push mark (read rest)
  feed (rest : List Char) : read ('\n' :: rest) = push '\n' (read rest)
  plain {c : Char} (rest : List Char) : c ≠ mark → escape ≠ some c → c ≠ '\n' →
    isPlain c = true → read (c :: rest) = push c (read rest)
  close {rest : List Char} {n : Nat} : rest.head? ≠ some mark → n ≤ 2 →
    read (List.replicate n mark ++ mark :: mark :: mark :: rest) =
      some (List.replicate n mark, rest)

theorem ne_return_of_plain {c : Char} (h : isPlain c = true) : c ≠ '\r' := by
  intro he
  subst he
  cases h

theorem readsLines_basicLines : ReadsLines '"' (some '\\') (basicLines false) where
  quote h := by
    rw [basicLines]
    · rfl
    · intro tail _ he
      subst he
      exact h _ rfl
    · intro tail _ he
      subst he
      exact h _ rfl
    · intro tail _ he
      subst he
      exact h _ rfl
    all_goals simp
  feed rest := by
    rw [basicLines]
    simp
  plain {c} rest hquote hescape hfeed h := by
    have hslash : c ≠ '\\' := fun heq => hescape (congrArg some heq.symm)
    rw [basicLines] <;> simp [hquote, hslash, hfeed, ne_return_of_plain h, h]
  close {rest n} h hn := by
    cases rest with
    | nil =>
      obtain rfl | rfl | rfl : n = 0 ∨ n = 1 ∨ n = 2 := by omega
      all_goals rfl
    | cons c rest =>
      have hc : c ≠ '"' := by simpa using h
      obtain rfl | rfl | rfl : n = 0 ∨ n = 1 ∨ n = 2 := by omega
      all_goals
        simp only [List.replicate, List.nil_append, List.cons_append]
        rw [basicLines]
      all_goals simp [hc]

theorem readsLines_literalLines : ReadsLines '\'' none literalLines where
  quote h := by
    rw [literalLines]
    · rfl
    · intro tail _ he
      subst he
      exact h _ rfl
    · intro tail _ he
      subst he
      exact h _ rfl
    · intro tail _ he
      subst he
      exact h _ rfl
    all_goals simp
  feed rest := by rw [literalLines]
  plain rest hquote _ hfeed h := by
    rw [literalLines] <;> simp [hquote, hfeed, ne_return_of_plain h, h]
  close {rest n} h hn := by
    cases rest with
    | nil =>
      obtain rfl | rfl | rfl : n = 0 ∨ n = 1 ∨ n = 2 := by omega
      all_goals rfl
    | cons c rest =>
      have hc : c ≠ '\'' := by simpa using h
      obtain rfl | rfl | rfl : n = 0 ∨ n = 1 ∨ n = 2 := by omega
      all_goals
        simp only [List.replicate, List.nil_append, List.cons_append]
        rw [literalLines]
      all_goals simp [hc]

theorem escapeControl_head (c : Char) : ∃ tail, escapeControl c = '\\' :: tail := by
  unfold escapeControl
  repeat' split
  all_goals exact ⟨_, rfl⟩

/-- What is written starts with a quote only if the text does, and that one is not the third in a
row; it starts with a control only if the text starts with a line feed. -/
theorem basicLinesBody_head (quotes : Nat) (c : Char) (cs : List Char) :
    ∃ first tail, basicLinesBody quotes (c :: cs) = first :: tail ∧
      (first = '"' → c = '"' ∧ quotes ≠ 2) ∧ (isControl first = true → c = '\n') := by
  rw [basicLinesBody]
  split
  · rename_i hquote
    split
    · exact ⟨_, _, rfl, fun h => absurd h (by decide), fun h => absurd h (by decide)⟩
    · rename_i htwo
      exact ⟨_, _, rfl, fun _ => ⟨hquote, htwo⟩, fun h => absurd h (by decide)⟩
  rename_i hquote
  split
  · exact ⟨_, _, rfl, fun h => absurd h (by decide), fun h => absurd h (by decide)⟩
  split
  · rename_i hfeed
    exact ⟨_, _, rfl, fun h => absurd h (by decide), fun _ => hfeed⟩
  split
  · obtain ⟨tail, htail⟩ := escapeControl_head c
    rw [htail]
    exact ⟨_, _, rfl, fun h => absurd h (by decide), fun h => absurd h (by decide)⟩
  · rename_i hcontrol
    exact ⟨c, _, rfl, fun h => absurd h hquote, fun h => absurd h hcontrol⟩

/-- A quote that is not the third in a row stands as it is; what follows it does not make it part of
the closing quotes unless the text ends there. -/
theorem basicLinesBody_quote {quotes : Nat} (h : quotes < 2) (cs : List Char) :
    basicLinesBody quotes ('"' :: cs) = '"' :: basicLinesBody (quotes + 1) cs ∧
      ((∃ n ≤ 1, cs = List.replicate n '"' ∧ basicLinesBody (quotes + 1) cs = cs) ∨
        ∀ rest, NotTwo '"' (basicLinesBody (quotes + 1) cs ++ rest)) := by
  refine ⟨by rw [basicLinesBody, if_pos rfl, if_neg (Nat.ne_of_lt h)], ?_⟩
  cases cs with
  | nil => exact Or.inl ⟨0, Nat.zero_le 1, rfl, rfl⟩
  | cons d ds =>
    obtain ⟨first, tail, heq, hfirst, _⟩ := basicLinesBody_head (quotes + 1) d ds
    by_cases hd : first = '"'
    · obtain ⟨rfl, hone⟩ := hfirst hd
      have hbody : basicLinesBody (quotes + 1) ('"' :: ds) = '"' :: basicLinesBody 2 ds := by
        obtain rfl : quotes = 0 := by omega
        rfl
      rw [hbody]
      cases ds with
      | nil => exact Or.inl ⟨1, Nat.le_refl 1, rfl, rfl⟩
      | cons e es =>
        obtain ⟨second, more, heq, hsecond, _⟩ := basicLinesBody_head 2 e es
        rw [heq]
        exact Or.inr fun rest => notTwo_of_second (fun h => (hsecond h).2 rfl) (more ++ rest)
    · rw [heq]
      exact Or.inr fun rest => notTwo_of_head hd (tail ++ rest)

/-- A character that is no quote is written so that it is read back, and ends a run of quotes. -/
theorem basicLinesBody_other {c : Char} (hc : c ≠ '"') (quotes : Nat) (cs : List Char) :
    ∃ written, basicLinesBody quotes (c :: cs) = written ++ basicLinesBody 0 cs ∧
      ∀ more, basicLines false (written ++ more) = push c (basicLines false more) := by
  rw [basicLinesBody, if_neg hc]
  split
  · rename_i hslash
    subst hslash
    exact ⟨['\\', '\\'], rfl, fun more => unescapes_basicLines.letter more rfl⟩
  rename_i hslash
  split
  · rename_i hfeed
    subst hfeed
    exact ⟨['\n'], rfl, readsLines_basicLines.feed⟩
  rename_i hfeed
  split
  · rename_i hcontrol
    exact ⟨escapeControl c, rfl, fun more => unescapes_basicLines.control hcontrol more⟩
  · rename_i hcontrol
    have hescape : some '\\' ≠ some c := fun heq => hslash (Option.some.inj heq).symm
    exact ⟨[c], rfl, fun more => readsLines_basicLines.plain more hc hescape hfeed
      (isPlain_of_not_control hcontrol)⟩

theorem basicLines_basicLinesBody {quotes : Nat} (hq : quotes ≤ 2) (cs : List Char)
    {rest : List Char} (hrest : rest.head? ≠ some '"') :
    basicLines false (basicLinesBody quotes cs ++ '"' :: '"' :: '"' :: rest) = some (cs, rest) := by
  induction cs generalizing quotes with
  | nil => exact readsLines_basicLines.close hrest (Nat.zero_le 2)
  | cons c cs ih =>
    by_cases hc : c = '"'
    · subst hc
      by_cases htwo : quotes = 2
      · -- The third quote in a row is escaped.
        rw [basicLinesBody, if_pos rfl, if_pos htwo, List.cons_append, List.cons_append,
          unescapes_basicLines.letter _ rfl, ih (Nat.zero_le 2)]
        rfl
      · have hlt : quotes < 2 := Nat.lt_of_le_of_ne hq htwo
        obtain ⟨hbody, ⟨n, hn, hcs, hsame⟩ | hnot⟩ := basicLinesBody_quote hlt cs
        · rw [hbody, hsame, hcs]
          exact readsLines_basicLines.close hrest (n := n + 1) (Nat.succ_le_succ hn)
        · rw [hbody, List.cons_append, readsLines_basicLines.quote (hnot _), ih hlt]
          rfl
    · obtain ⟨written, hbody, hwritten⟩ := basicLinesBody_other hc quotes cs
      rw [hbody, List.append_assoc, hwritten, ih (Nat.zero_le 2)]
      rfl

theorem longestRun_mark (mark : Char) (current : Nat) (cs : List Char) :
    longestRun mark current (mark :: cs) =
      max (current + 1) (longestRun mark (current + 1) cs) := by
  rw [longestRun, if_pos rfl]

/-- After one quote of a text without three in a row, two more do not follow unless the text
ends. -/
theorem notTwo_of_longestRun {mark : Char} {current : Nat} {cs : List Char}
    (h : longestRun mark current (mark :: cs) < 3) :
    (∃ n ≤ 1, cs = List.replicate n mark) ∨ ∀ rest, NotTwo mark (cs ++ rest) := by
  cases cs with
  | nil => exact Or.inl ⟨0, Nat.zero_le 1, rfl⟩
  | cons d ds =>
    by_cases hd : d = mark
    · subst hd
      cases ds with
      | nil => exact Or.inl ⟨1, Nat.le_refl 1, rfl⟩
      | cons e es =>
        by_cases he : e = d
        · subst he
          simp only [longestRun_mark] at h
          omega
        · exact Or.inr fun rest => notTwo_of_second he (es ++ rest)
    · exact Or.inr fun rest => notTwo_of_head hd (ds ++ rest)

theorem literalLines_raw {current : Nat} {cs rest : List Char}
    (hplain : ∀ c ∈ cs, c = '\n' ∨ isPlain c = true) (hrun : longestRun '\'' current cs < 3)
    (hrest : rest.head? ≠ some '\'') :
    literalLines (cs ++ '\'' :: '\'' :: '\'' :: rest) = some (cs, rest) := by
  induction cs generalizing current with
  | nil => exact readsLines_literalLines.close hrest (Nat.zero_le 2)
  | cons c cs ih =>
    have hmore : ∀ d ∈ cs, d = '\n' ∨ isPlain d = true := fun d hd =>
      hplain d (List.mem_cons_of_mem c hd)
    by_cases hc : c = '\''
    · subst hc
      rcases notTwo_of_longestRun hrun with ⟨n, hn, rfl⟩ | hnot
      · exact readsLines_literalLines.close hrest (n := n + 1) (Nat.succ_le_succ hn)
      · rw [longestRun_mark] at hrun
        rw [List.cons_append, readsLines_literalLines.quote (hnot _),
          ih hmore (Nat.lt_of_le_of_lt (Nat.le_max_right _ _) hrun)]
        rfl
    · rw [longestRun, if_neg hc] at hrun
      have hread : ∀ more, literalLines (c :: more) = push c (literalLines more) := by
        intro more
        by_cases hfeed : c = '\n'
        · subst hfeed
          exact readsLines_literalLines.feed more
        · have hc' := (hplain c List.mem_cons_self).resolve_left hfeed
          exact readsLines_literalLines.plain more hc (by simp) hfeed hc'
      rw [List.cons_append, hread, ih hmore hrun]
      rfl

/-! ## The form that is chosen -/

theorem dropLineFeed_firstLineFeed {cs body : List Char}
    (h : '\n' ∉ cs → ∀ c rest, body = c :: rest → c ≠ '\n' ∧ c ≠ '\r') :
    dropLineFeed (firstLineFeed cs ++ body) = body := by
  unfold firstLineFeed
  split
  · rfl
  · rename_i hfeed
    have hnone : '\n' ∉ cs := fun hmem => hfeed (List.contains_iff_mem.mpr hmem)
    rw [List.nil_append]
    unfold dropLineFeed
    split
    · exact absurd rfl (h hnone _ _ rfl).1
    · exact absurd rfl (h hnone _ _ rfl).2
    · rfl

theorem isPlain_of_not_hard {c : Char} (h : ¬ isHardControl c = true) :
    c = '\n' ∨ isPlain c = true := by
  simp only [isHardControl, isPlain, Bool.or_eq_true, Bool.and_eq_true, decide_eq_true_eq,
    beq_iff_eq, not_or, not_and, Classical.not_not] at h ⊢
  by_cases hlow : c.toNat < 0x20
  · by_cases htab : c = '\t'
    · exact Or.inr (Or.inl htab)
    · exact Or.inl (h.1 ⟨hlow, htab⟩)
  · exact Or.inr (Or.inr ⟨Nat.le_of_not_lt hlow, h.2⟩)

theorem formOf_literal {cs : List Char} (h : formOf cs = .literal) :
    cs ≠ [] ∧ ∀ c ∈ cs, c ≠ '\'' ∧ isPlain c = true := by
  simp only [formOf] at h
  split at h
  · cases h
  rename_i hbasic
  split at h
  · rename_i hliteral
    simp only [Bool.and_eq_true, Bool.not_eq_true', List.contains_eq_mem, decide_eq_false_iff_not,
      List.any_eq_false] at hliteral
    obtain ⟨⟨hquote, hfeed⟩, hhard⟩ := hliteral
    refine ⟨fun hnil => hbasic (by rw [hnil]; rfl), fun c hc => ⟨?_, ?_⟩⟩
    · intro he
      subst he
      exact hquote hc
    · refine (isPlain_of_not_hard (hhard c hc)).resolve_left ?_
      intro he
      subst he
      exact hfeed hc
  split at h
  · cases h
  split at h
  · cases h
  split at h
  · cases h
  · cases h

theorem formOf_literalLines {cs : List Char} (h : formOf cs = .literalLines) :
    (∀ c ∈ cs, c = '\n' ∨ isPlain c = true) ∧ longestRun '\'' 0 cs < 3 := by
  simp only [formOf] at h
  split at h
  · cases h
  split at h
  · cases h
  split at h
  · cases h
  split at h
  · rename_i hlines
    simp only [Bool.and_eq_true, Bool.not_eq_true', decide_eq_true_eq, List.any_eq_false] at hlines
    exact ⟨fun c hc => isPlain_of_not_hard (hlines.1 c hc), hlines.2⟩
  split at h
  · cases h
  · cases h

theorem string?_basic {body : List Char} (h : NotTwo '"' body) :
    string? ('"' :: body) = basic body := by
  rw [string?]
  intro rest he
  subst he
  exact h rest rfl

theorem string?_literal {body : List Char} (h : NotTwo '\'' body) :
    string? ('\'' :: body) = literal body := by
  rw [string?]
  intro rest he
  subst he
  exact h rest rfl

theorem string?_basicLines (body : List Char) :
    string? ('"' :: '"' :: '"' :: body) = basicLines false (dropLineFeed body) := by
  rw [string?]

theorem string?_literalLines (body : List Char) :
    string? ('\'' :: '\'' :: '\'' :: body) = literalLines (dropLineFeed body) := by
  rw [string?]

theorem basicBody_notTwo (cs : List Char) {rest : List Char} (h : rest.head? ≠ some '"') :
    NotTwo '"' (basicBody cs ++ '"' :: rest) := by
  cases cs with
  | nil =>
    cases rest with
    | nil => exact fun tail heq => by cases heq
    | cons c rest => exact notTwo_of_second (by simpa using h) rest
  | cons c cs =>
    have hhead : ∃ first tail, first ≠ '"' ∧ basicBody (c :: cs) = first :: tail := by
      rw [basicBody, List.flatMap_cons]
      split
      · exact ⟨_, _, by decide, rfl⟩
      rename_i hmark
      split
      · obtain ⟨tail, htail⟩ := escapeControl_head c
        rw [htail]
        exact ⟨_, _, by decide, rfl⟩
      · exact ⟨_, _, fun hc => hmark (Or.inl hc), rfl⟩
    obtain ⟨first, tail, hfirst, heq⟩ := hhead
    rw [heq]
    exact notTwo_of_head hfirst _

theorem string?_literalBody {cs rest : List Char} (hne : cs ≠ [])
    (hplain : ∀ c ∈ cs, c ≠ '\'' ∧ isPlain c = true) :
    string? ('\'' :: (cs ++ '\'' :: rest)) = some (cs, rest) := by
  obtain ⟨c, tail, rfl⟩ := List.exists_cons_of_ne_nil hne
  have hnot : NotTwo '\'' (c :: tail ++ '\'' :: rest) :=
    notTwo_of_head (hplain c List.mem_cons_self).1 _
  exact (string?_literal hnot).trans (literal_raw hplain rest)

/-- The line feed that is dropped behind opening quotes is not one of the text. -/
theorem dropLineFeed_basicLinesBody (cs rest : List Char) :
    dropLineFeed (firstLineFeed cs ++ (basicLinesBody 0 cs ++ '"' :: rest)) =
      basicLinesBody 0 cs ++ '"' :: rest := by
  refine dropLineFeed_firstLineFeed ?_
  intro hfeed c tail heq
  have hcontrol : ¬ isControl c = true := by
    cases cs with
    | nil => cases heq; decide
    | cons d ds =>
      obtain ⟨first, more, hbody, _, hfirst⟩ := basicLinesBody_head 0 d ds
      rw [hbody] at heq
      cases heq
      exact fun h => hfeed (hfirst h ▸ List.mem_cons_self)
  refine ⟨?_, ?_⟩
  all_goals
    intro he
    subst he
    exact hcontrol rfl

theorem dropLineFeed_literalLines {cs : List Char} (hplain : ∀ c ∈ cs, c = '\n' ∨ isPlain c = true)
    (rest : List Char) :
    dropLineFeed (firstLineFeed cs ++ (cs ++ '\'' :: rest)) = cs ++ '\'' :: rest := by
  refine dropLineFeed_firstLineFeed ?_
  intro hfeed c tail heq
  cases cs with
  | nil => cases heq; decide
  | cons d ds =>
    cases heq
    have hc := hplain c List.mem_cons_self
    refine ⟨?_, ?_⟩
    · intro he
      subst he
      exact hfeed List.mem_cons_self
    · intro he
      subst he
      exact absurd hc (by decide)

/-- A string is read back as it was written, in whichever form. -/
theorem string?_writeChars (cs : List Char) {rest : List Char} (hdouble : rest.head? ≠ some '"')
    (hsingle : rest.head? ≠ some '\'') : string? (writeChars cs ++ rest) = some (cs, rest) := by
  unfold writeChars
  split
  · rw [List.cons_append, List.cons_append, List.append_assoc, List.singleton_append,
      string?_basic (basicBody_notTwo cs hdouble)]
    exact basic_basicBody cs rest
  · rename_i hform
    obtain ⟨hne, hplain⟩ := formOf_literal hform
    rw [List.cons_append, List.cons_append, List.append_assoc, List.singleton_append]
    exact string?_literalBody hne hplain
  · simp only [List.append_assoc, List.cons_append, List.nil_append]
    rw [string?_basicLines, dropLineFeed_basicLinesBody]
    exact basicLines_basicLinesBody (Nat.zero_le 2) cs hdouble
  · rename_i hform
    obtain ⟨hplain, hrun⟩ := formOf_literalLines hform
    simp only [List.append_assoc, List.cons_append, List.nil_append]
    rw [string?_literalLines, dropLineFeed_literalLines hplain]
    exact literalLines_raw hplain hrun hsingle

end ToolBootstrap.Toml
