import ToolBootstrap.Proofs.DocumentString
import ToolBootstrap.Proofs.Text
import ToolBootstrap.Toml.Reader

/- Lines of a document are read back as they were written, and build up the entries they name.

   `Writes` is what a value's text has to be; strings, natural numbers and the empty array have one.
   `Says` is what the rest of a document says, in whatever room is left, and there is one step for
   each kind of line that a writer puts in front of it. Keys that are set once give their entries in
   order (`insertKeys_plain`), and sections of one name give an array of tables
   (`insertSections_array`). -/

namespace ToolBootstrap.Toml

/-! ## Numbers -/

theorem ne_of_class {p : Char → Bool} {c x : Char} (h : p c = true) (hx : p x = false) : c ≠ x := by
  intro he
  subst he
  rw [hx] at h
  cases h

theorem mapM_some {f : Char → Option Nat} {g : Char → Nat} {cs : List Char}
    (h : ∀ c ∈ cs, f c = some (g c)) : cs.mapM f = some (cs.map g) := by
  induction cs with
  | nil => rfl
  | cons c cs ih =>
    rw [List.mapM_cons, h c List.mem_cons_self, ih fun d hd => h d (List.mem_cons_of_mem c hd)]
    rfl

theorem digitRun?_of_digits {cs : List Char} (hne : cs ≠ []) (h : ∀ c ∈ cs, c.isDigit = true) :
    digitRun? 10 cs = some (cs.map fun c => c.toNat - '0'.toNat) := by
  have hscore : '_' ∉ cs := fun hmem => absurd (h _ hmem) (by decide)
  have hvalue : ∀ c ∈ cs, ((digitValue? c).filter (· < 10)) = some (c.toNat - '0'.toNat) := by
    intro c hc
    have hdigit := h c hc
    have hlt : c.toNat - '0'.toNat < 10 := by
      have hrange := isDigit_range hdigit
      have hzero : '0'.toNat = 48 := rfl
      omega
    rw [digitValue?, if_pos hdigit, Option.filter_some, if_pos (decide_eq_true hlt)]
  unfold digitRun?
  simp only [List.splitOn_eq_singleton hscore, List.any_cons, List.any_nil, Bool.or_false,
    List.isEmpty_iff, hne, if_false, List.flatten_cons, List.flatten_nil, List.append_nil]
  exact mapM_some hvalue

theorem ofDigits_map (cs : List Char) :
    ofDigits 10 (cs.map fun c => c.toNat - '0'.toNat) = Nat.ofDigitChars 10 cs 0 := by
  simp only [ofDigits, Nat.ofDigitChars, List.foldl_map, Nat.mul_comm]

theorem sign_of_digit {c : Char} (h : c.isDigit = true) (cs : List Char) :
    sign (c :: cs) = (false, c :: cs) := by
  have hminus : c ≠ '-' := ne_of_class h rfl
  have hplus : c ≠ '+' := ne_of_class h rfl
  unfold sign
  split
  · rename_i heq
    cases heq
    exact absurd rfl hminus
  · rename_i heq
    cases heq
    exact absurd rfl hplus
  · rfl

theorem plainNatural?_of_head {c : Char} (hc : c ≠ '0') (cs : List Char) :
    plainNatural? (c :: cs) = (digitRun? 10 (c :: cs)).map (ofDigits 10) := by
  rw [plainNatural?]
  · intro h
    cases h
    exact hc rfl
  · intro _ h
    cases h
    exact hc rfl

theorem integer?_toDigits (n : Nat) : integer? (Nat.toDigits 10 n) = some (n : Int) := by
  by_cases hzero : n = 0
  · subst hzero
    rfl
  obtain ⟨c, tail, heq, hc⟩ := toDigits_head hzero
  have hdigits : ∀ d ∈ c :: tail, d.isDigit = true := fun d hd =>
    isDigit_of_toDigits (n := n) (heq ▸ hd)
  have hplain : plainNatural? (c :: tail) = some n := by
    rw [plainNatural?_of_head hc, digitRun?_of_digits (List.cons_ne_nil c tail) hdigits,
      Option.map_some, ofDigits_map, ← heq, Nat.ofDigitChars_toDigits (by decide) (by decide)]
  rw [heq, integer?]
  · rw [sign_of_digit (hdigits c List.mem_cons_self)]
    dsimp only
    rw [hplain]
    rfl
  all_goals
    intro _ h
    cases h
    exact hc rfl

theorem wordValue?_toDigits {n : Nat} (h : n < twoTo 32) :
    wordValue? (Nat.toDigits 10 n) = some (.integer n) := by
  have hdigits : ∀ {word : List Char}, (∃ c ∈ word, c.isDigit = false) →
      Nat.toDigits 10 n ≠ word := by
    intro word ⟨c, hc, hnot⟩ he
    subst he
    rw [isDigit_of_toDigits hc] at hnot
    cases hnot
  have hfits : fitsInteger n = true := by
    have h128 : twoTo 32 ≤ twoTo 128 := by decide
    simp only [fitsInteger, Bool.and_eq_true, decide_eq_true_eq]
    omega
  have htrue : Nat.toDigits 10 n ≠ "true".toList := hdigits ⟨'t', by decide, rfl⟩
  have hfalse : Nat.toDigits 10 n ≠ "false".toList := hdigits ⟨'f', by decide, rfl⟩
  rw [wordValue?, if_neg htrue, if_neg hfalse, integer?_toDigits]
  dsimp only
  rw [if_pos hfits]

theorem word_line {cs : List Char} (h : ∀ c ∈ cs, isWordChar c = true) (rest : List Char) :
    word (cs ++ '\n' :: rest) = (cs, '\n' :: rest) := by
  have hstop : isWordChar '\n' = false := by decide
  have htake : (cs ++ '\n' :: rest).takeWhile isWordChar = cs := by
    rw [List.takeWhile_append_of_pos h, List.takeWhile_cons_of_neg (by simp [hstop]),
      List.append_nil]
  have hdrop : (cs ++ '\n' :: rest).dropWhile isWordChar = '\n' :: rest := by
    rw [List.dropWhile_append_of_pos h, List.dropWhile_cons_of_neg (by simp [hstop])]
  simp only [word, htake, hdrop]
  rfl

/-! ## Gaps -/

theorem skipGap_of_head {c : Char} (h : isGap c = false) (cs : List Char) :
    skipGap (c :: cs) = c :: cs := List.dropWhile_cons_of_neg (by simp [h])

/-! ## Values -/

/-- A text is read as a value where it stands behind a blank at the end of a line. -/
def Writes (written : List Char) (v : Value) : Prop :=
  ∀ rest, value (skipGap (' ' :: written ++ '\n' :: rest)) = some (v, '\n' :: rest)

theorem writeChars_head (cs : List Char) :
    ∃ tail, writeChars cs = '"' :: tail ∨ writeChars cs = '\'' :: tail := by
  unfold writeChars
  split
  · exact ⟨_, Or.inl rfl⟩
  · exact ⟨_, Or.inr rfl⟩
  · exact ⟨_, Or.inl rfl⟩
  · exact ⟨_, Or.inr rfl⟩

theorem writes_string (text : String) : Writes (writeChars text.toList) (.string text) := by
  intro rest
  have hread : string? (writeChars text.toList ++ '\n' :: rest) =
      some (text.toList, '\n' :: rest) :=
    string?_writeChars text.toList (by simp) (by simp)
  obtain ⟨tail, htail | htail⟩ := writeChars_head text.toList
  all_goals
    rw [htail] at hread ⊢
    have hvalue : value (skipGap (' ' :: writeChars text.toList ++ '\n' :: rest)) =
      (string? (writeChars text.toList ++ '\n' :: rest)).map fun r =>
        (Value.string (String.ofList r.1), r.2) := by
      rw [htail]
      rfl
    rw [htail, hread] at hvalue
    rw [hvalue, Option.map_some, String.ofList_toList]

/-- What starts with a digit is read as a word. -/
theorem value_of_digit {c : Char} (h : c.isDigit = true) (cs : List Char) :
    value (c :: cs) =
      (wordValue? (word (c :: cs)).1).map fun v => (v, (word (c :: cs)).2) := by
  have hplain : value (c :: cs) = plainValue (c :: cs) := by
    have hbracket : c ≠ '[' := ne_of_class h rfl
    have hbrace : c ≠ '\x7b' := ne_of_class h rfl
    unfold value depthLimit valueWithin
    split
    · rename_i heq
      cases heq
      exact absurd rfl hbracket
    · rename_i heq
      cases heq
      exact absurd rfl hbrace
    · rfl
  have hdouble : c ≠ '"' := ne_of_class h rfl
  have hsingle : c ≠ '\'' := ne_of_class h rfl
  rw [hplain]
  unfold plainValue
  split
  · rename_i heq
    cases heq
    exact absurd rfl hdouble
  · rename_i heq
    cases heq
    exact absurd rfl hsingle
  · rfl

theorem isGap_of_digit {c : Char} (h : c.isDigit = true) : isGap c = false := by
  have hspace : c ≠ ' ' := ne_of_class h rfl
  have htab : c ≠ '\t' := ne_of_class h rfl
  simp [isGap, hspace, htab]

theorem writes_natural {n : Nat} (h : n < twoTo 32) :
    Writes (Nat.toDigits 10 n) (.integer n) := by
  intro rest
  obtain ⟨c, tail, heq⟩ := List.exists_cons_of_ne_nil (Nat.toDigits_ne_nil (n := n) (b := 10))
  have hdigit : c.isDigit = true := isDigit_of_toDigits (heq ▸ List.mem_cons_self)
  have hchars : ∀ d ∈ c :: tail, isWordChar d = true := by
    intro d hd
    have hd' : d.isDigit = true := isDigit_of_toDigits (n := n) (heq ▸ hd)
    simp [isWordChar, Char.isAlphanum, hd']
  have hskip : skipGap (' ' :: c :: tail ++ '\n' :: rest) = c :: tail ++ '\n' :: rest :=
    skipGap_of_head (isGap_of_digit hdigit) _
  have hvalue := wordValue?_toDigits h
  rw [heq] at hvalue ⊢
  rw [hskip, List.cons_append, value_of_digit hdigit, ← List.cons_append, word_line hchars rest,
    hvalue]
  rfl

theorem writes_nothing : Writes ['[', ']'] (.array false []) := fun _ => rfl

/-! ## Keys -/

/-- A key that needs no quotes. -/
structure IsBare (name : String) : Prop where
  nonempty : name.toList ≠ []
  bare : ∀ c ∈ name.toList, isBareChar c = true

instance (name : String) : Decidable (IsBare name) :=
  decidable_of_iff (name.toList.isEmpty = false ∧ name.toList.all isBareChar = true)
    ⟨fun ⟨hne, hall⟩ => ⟨by simpa using hne, List.all_eq_true.mp hall⟩,
      fun h => ⟨by simpa using h.nonempty, List.all_eq_true.mpr h.bare⟩⟩

theorem IsBare.head {name : String} (h : IsBare name) :
    ∃ c tail, name.toList = c :: tail ∧ isBareChar c = true := by
  obtain ⟨c, tail, heq⟩ := List.exists_cons_of_ne_nil h.nonempty
  exact ⟨c, tail, heq, h.bare c (heq ▸ List.mem_cons_self)⟩

theorem isGap_of_bare {c : Char} (h : isBareChar c = true) : isGap c = false := by
  have hspace : c ≠ ' ' := ne_of_class h (by decide)
  have htab : c ≠ '\t' := ne_of_class h (by decide)
  simp [isGap, hspace, htab]

theorem keyPart_bare {name : String} (h : IsBare name) {stop : Char}
    (hstop : isBareChar stop = false)
    (rest : List Char) : keyPart (name.toList ++ stop :: rest) = some (name, stop :: rest) := by
  obtain ⟨c, tail, heq, hc⟩ := h.head
  have hdouble : c ≠ '"' := ne_of_class hc (by decide)
  have hsingle : c ≠ '\'' := ne_of_class hc (by decide)
  have htake : (name.toList ++ stop :: rest).takeWhile isBareChar = name.toList := by
    rw [List.takeWhile_append_of_pos h.bare, List.takeWhile_cons_of_neg (by simp [hstop]),
      List.append_nil]
  have hdrop : (name.toList ++ stop :: rest).dropWhile isBareChar = stop :: rest := by
    rw [List.dropWhile_append_of_pos h.bare, List.dropWhile_cons_of_neg (by simp [hstop])]
  unfold keyPart
  split
  · rename_i hquoted
    rw [heq] at hquoted
    cases hquoted
    exact absurd rfl hdouble
  · rename_i hquoted
    rw [heq] at hquoted
    cases hquoted
    exact absurd rfl hsingle
  · rw [htake, hdrop, ← String.ofList_toList (s := name), heq, String.toList_ofList]

/-- A key without quotes ends at a character that is none of its own. -/
theorem key_bare {name : String} (h : IsBare name) {stop : Char} (hstop : isBareChar stop = false)
    {after rest : List Char} {mark : Char} (hafter : skipGap (stop :: rest) = mark :: after)
    (hmark : mark ≠ '.') :
    key (name.toList ++ stop :: rest) = some (([], name), mark :: after) := by
  obtain ⟨c, tail, heq, hc⟩ := h.head
  have hskip : skipGap (name.toList ++ stop :: rest) = name.toList ++ stop :: rest := by
    rw [heq]
    exact skipGap_of_head (isGap_of_bare hc) _
  have hfuel : ∃ fuel, (name.toList ++ stop :: rest).length = fuel + 1 := by
    rw [heq]
    exact ⟨_, rfl⟩
  obtain ⟨fuel, hfuel⟩ := hfuel
  have hparts : keyWithin (fuel + 1) (name.toList ++ stop :: rest) =
      some ([name], mark :: after) := by
    rw [keyWithin, hskip, keyPart_bare h hstop]
    dsimp only
    rw [hafter]
    split
    · rename_i heq
      cases heq
      exact absurd rfl hmark
    · rfl
  rw [key, hfuel, hparts]
  rfl

/-! ## Lines -/

def keyLine (name : String) (written : List Char) : List Char :=
  name.toList ++ [' ', '=', ' '] ++ written ++ ['\n']

def headerLine (name : String) : List Char := ['[', '['] ++ name.toList ++ [']', ']', '\n']

theorem statement_key {name : String} {written : List Char} {v : Value} (h : IsBare name)
    (hv : Writes written v) (rest : List Char) :
    statement (keyLine name written ++ rest) = some (.pair ⟨[], name, v⟩, '\n' :: rest) := by
  obtain ⟨c, tail, heq, hc⟩ := h.head
  have hbracket : c ≠ '[' := ne_of_class hc (by decide)
  have hline : keyLine name written ++ rest =
      name.toList ++ ' ' :: '=' :: ' ' :: written ++ '\n' :: rest := by
    simp [keyLine]
  have hkey : key (name.toList ++ ' ' :: '=' :: ' ' :: written ++ '\n' :: rest) =
      some (([], name), '=' :: ' ' :: written ++ '\n' :: rest) := by
    rw [List.append_assoc]
    exact key_bare h (by decide) rfl (by decide)
  have hpair : keyValue value (name.toList ++ ' ' :: '=' :: ' ' :: written ++ '\n' :: rest) =
      some (⟨[], name, v⟩, '\n' :: rest) := by
    rw [keyValue, hkey]
    show (value (skipGap (' ' :: written ++ '\n' :: rest))).map _ = _
    rw [hv rest]
    rfl
  have hstatement : statement (keyLine name written ++ rest) =
      (keyValue value (keyLine name written ++ rest)).map fun r => (.pair r.1, r.2) := by
    rw [hline, heq]
    simp only [List.cons_append]
    rw [statement]
    intro _ h
    cases h
    exact hbracket rfl
  rw [hstatement, hline, hpair]
  rfl

theorem statement_header {name : String} (h : IsBare name) (rest : List Char) :
    statement (headerLine name ++ rest) = some (.header ⟨true, [], name⟩, '\n' :: rest) := by
  have hkey : key (name.toList ++ ']' :: ']' :: '\n' :: rest) =
      some (([], name), ']' :: ']' :: '\n' :: rest) := key_bare h (by decide) rfl (by decide)
  have hline : headerLine name ++ rest =
      '[' :: '[' :: (name.toList ++ ']' :: ']' :: '\n' :: rest) := by
    simp [headerLine]
  rw [hline, statement, header, hkey]
  rfl

/-! ## Documents -/

/-- A text says some statements, whatever room is left. -/
def Says (cs : List Char) (statements : List Statement) : Prop :=
  ∀ fuel, cs.length < fuel → statementsWithin fuel cs = some statements

theorem says_nothing : Says [] [] := by
  intro fuel hfuel
  cases fuel with
  | zero => cases hfuel
  | succ fuel => rfl

theorem Says.blankLine {rest : List Char} {statements : List Statement} (h : Says rest statements) :
    Says ('\n' :: rest) statements := by
  intro fuel hfuel
  cases fuel with
  | zero => cases hfuel
  | succ fuel =>
    rw [statementsWithin]
    exact h fuel (Nat.lt_of_succ_lt_succ hfuel)

/-- What a line with a statement starts with. -/
def StartsLine (c : Char) : Prop := isBareChar c = true ∨ c = '['

theorem StartsLine.ne {c x : Char} (h : StartsLine c) (hx : isBareChar x = false ∧ x ≠ '[') :
    c ≠ x := by
  rcases h with h | rfl
  · exact ne_of_class h hx.1
  · exact hx.2.symm

theorem StartsLine.isGap {c : Char} (h : StartsLine c) : isGap c = false := by
  rcases h with h | rfl
  · exact isGap_of_bare h
  · rfl

theorem lineEnd_of_starts {c : Char} (h : StartsLine c) (cs : List Char) :
    lineEnd (c :: cs) = none := by
  have hmark : c ≠ '#' := h.ne (by decide)
  have hfeed : c ≠ '\n' := h.ne (by decide)
  have hreturn : c ≠ '\r' := h.ne (by decide)
  simp [lineEnd, skipGap_of_head h.isGap, hmark, hfeed, hreturn]

/-- A line whose statement is read says that statement. -/
theorem Says.line {c : Char} {line rest : List Char} {statements : List Statement}
    {said : Statement} (h : Says rest statements) (hc : StartsLine c)
    (hsaid : statement (c :: line ++ rest) = some (said, '\n' :: rest)) :
    Says (c :: line ++ rest) (said :: statements) := by
  intro fuel hfuel
  cases fuel with
  | zero => cases hfuel
  | succ fuel =>
    have hskip : skipGap (c :: line ++ rest) = c :: line ++ rest := skipGap_of_head hc.isGap _
    have hend : lineEnd (c :: line ++ rest) = none := lineEnd_of_starts hc _
    have hrest : statementsWithin fuel rest = some statements := by
      refine h fuel ?_
      rw [List.length_append, List.length_cons] at hfuel
      omega
    have hfeed : lineEnd ('\n' :: rest) = some rest := rfl
    rw [statementsWithin, hskip]
    simp only [List.cons_append] at hend hsaid ⊢
    simp only [hend, hsaid, hfeed, hrest, Option.map_some]

theorem Says.key {name : String} {written rest : List Char} {v : Value}
    {statements : List Statement} (h : Says rest statements) (hname : IsBare name)
    (hv : Writes written v) :
    Says (keyLine name written ++ rest) (.pair ⟨[], name, v⟩ :: statements) := by
  obtain ⟨c, tail, heq, hc⟩ := hname.head
  have hsaid := statement_key hname hv rest
  rw [keyLine, heq] at hsaid ⊢
  exact h.line (Or.inl hc) hsaid

theorem Says.header {name : String} {rest : List Char} {statements : List Statement}
    (h : Says rest statements) (hname : IsBare name) :
    Says (headerLine name ++ rest) (.header ⟨true, [], name⟩ :: statements) :=
  h.line (Or.inr rfl) (statement_header hname rest)

/-- What a document says builds up its entries. -/
theorem readChars_of_says {cs : List Char} {statements : List Statement} (h : Says cs statements)
    (hmark : cs.head? ≠ some '\uFEFF') : readChars cs = build statements := by
  rw [readChars, if_neg hmark, h _ (Nat.lt_succ_self _)]

/-! ## Sections -/

theorem sections_pairs (pairs : List KeyValue) (rest : List Statement) :
    sections (pairs.map Statement.pair ++ rest) =
      (pairs ++ (sections rest).1, (sections rest).2) := by
  induction pairs with
  | nil => rfl
  | cons pair pairs ih =>
    rw [List.map_cons, List.cons_append, sections, ih]
    rfl

theorem sections_header (header : Header) (pairs : List KeyValue) (rest : List Statement) :
    sections (.header header :: pairs.map Statement.pair ++ rest) =
      ([], (header, pairs ++ (sections rest).1) :: (sections rest).2) := by
  rw [List.cons_append, sections, sections_pairs]

/-! ## Entries -/

def plainPairs (fields : Entries) : List KeyValue := fields.map fun f => ⟨[], f.1, f.2⟩

theorem insertKeys_plain {entries fields : Entries}
    (h : ((entries ++ fields).map Prod.fst).Nodup) :
    insertKeys .header entries (plainPairs fields) = some (entries ++ fields) := by
  induction fields generalizing entries with
  | nil => rw [List.append_nil]; rfl
  | cons field fields ih =>
    have hfree : entries.lookup field.1 = none := by
      rw [List.lookup_eq_none_iff]
      intro entry hentry
      rw [List.map_append, List.nodup_append] at h
      have hne := h.2.2 _ (List.mem_map_of_mem hentry) _ (List.mem_map_of_mem List.mem_cons_self)
      simpa using hne.symm
    have hinsert : insertKey .header entries ⟨[], field.1, field.2⟩ =
        some (entries ++ [field]) := by
      simp [insertKey, updateAt, hfree]
    rw [plainPairs, List.map_cons, insertKeys, hinsert]
    dsimp only
    have hnodup : ((entries ++ [field] ++ fields).map Prod.fst).Nodup := by
      rwa [List.append_assoc]
    have hnext := ih hnodup
    rw [List.append_assoc] at hnext
    exact hnext

/-- An array whose tables are written as sections. -/
def tableArray (tables : List Entries) : Value := .array true (tables.map (Value.table .header))

/-- The sections of an array of tables. -/
def tableSections (name : String) (tables : List Entries) : List (Header × List KeyValue) :=
  tables.map fun fields => (⟨true, [], name⟩, plainPairs fields)

theorem insertSection_first {root : Entries} {name : String} {fields : Entries}
    (hroot : ∀ e ∈ root, e.1 ≠ name) (hfields : (fields.map Prod.fst).Nodup) :
    insertSection root ⟨true, [], name⟩ (plainPairs fields) =
      some (root ++ [(name, tableArray [fields])]) := by
  have hnone : root.lookup name = none :=
    List.lookup_eq_none_iff.mpr fun e he => by simpa using (hroot e he).symm
  have hkeys : insertKeys .header [] (plainPairs fields) = some fields := insertKeys_plain hfields
  simp only [insertSection, updateAt, openSection, hnone, hkeys]
  rfl

theorem insertSection_next {root : Entries} {name : String} {tables : List Entries}
    {fields : Entries} (hroot : ∀ e ∈ root, e.1 ≠ name) (hfields : (fields.map Prod.fst).Nodup) :
    insertSection (root ++ [(name, tableArray tables)]) ⟨true, [], name⟩ (plainPairs fields) =
      some (root ++ [(name, tableArray (tables ++ [fields]))]) := by
  have hnone : root.lookup name = none :=
    List.lookup_eq_none_iff.mpr fun e he => by simpa using (hroot e he).symm
  have hsome : (root ++ [(name, tableArray tables)]).lookup name = some (tableArray tables) := by
    rw [List.lookup_append, hnone, List.lookup_cons_self]
    rfl
  have hkeys : insertKeys .header [] (plainPairs fields) = some fields := insertKeys_plain hfields
  have hreplace : ∀ v w, Entries.replace (root ++ [(name, v)]) name w = root ++ [(name, w)] := by
    intro v w
    have hsame : root.map (fun e => if e.1 = name then (name, w) else e) = root :=
      (List.map_congr_left fun e he => if_neg (hroot e he)).trans (List.map_id' root)
    rw [Entries.replace, List.map_append, hsame, List.map_singleton, if_pos rfl]
  simp only [insertSection, updateAt, openSection, hsome]
  simp only [tableArray, hkeys, Option.map_some]
  rw [hreplace, List.map_append]
  rfl

theorem insertSections_next {root : Entries} {name : String} {tables more : List Entries}
    (hroot : ∀ e ∈ root, e.1 ≠ name) (hmore : ∀ fields ∈ more, (fields.map Prod.fst).Nodup) :
    insertSections (root ++ [(name, tableArray tables)]) (tableSections name more) =
      some (root ++ [(name, tableArray (tables ++ more))]) := by
  induction more generalizing tables with
  | nil => rw [List.append_nil]; rfl
  | cons fields more ih =>
    have hnext : insertSections (root ++ [(name, tableArray (tables ++ [fields]))])
        (tableSections name more) =
          some (root ++ [(name, tableArray (tables ++ [fields] ++ more))]) :=
      ih fun f hf => hmore f (List.mem_cons_of_mem fields hf)
    rw [List.append_assoc] at hnext
    rw [tableSections, List.map_cons, insertSections,
      insertSection_next hroot (hmore fields List.mem_cons_self)]
    exact hnext

theorem insertSections_array {root : Entries} {name : String} {tables : List Entries}
    (hroot : ∀ e ∈ root, e.1 ≠ name) (htables : ∀ fields ∈ tables, (fields.map Prod.fst).Nodup)
    (hne : tables ≠ []) :
    insertSections root (tableSections name tables) =
      some (root ++ [(name, tableArray tables)]) := by
  obtain ⟨fields, more, rfl⟩ := List.exists_cons_of_ne_nil hne
  rw [tableSections, List.map_cons, insertSections,
    insertSection_first hroot (htables fields List.mem_cons_self)]
  exact insertSections_next hroot fun f hf => htables f (List.mem_cons_of_mem fields hf)

/-! ## Documents of keys and of one array of tables -/

def keyStatements (fields : Entries) : List Statement := (plainPairs fields).map Statement.pair

def tableStatements (name : String) (tables : List Entries) : List Statement :=
  tables.flatMap fun fields => .header ⟨true, [], name⟩ :: keyStatements fields

theorem sections_tables (name : String) (tables : List Entries) :
    sections (tableStatements name tables) = ([], tableSections name tables) := by
  induction tables with
  | nil => rfl
  | cons fields tables ih =>
    rw [tableStatements, List.flatMap_cons, keyStatements, sections_header]
    rw [tableStatements] at ih
    rw [ih, List.append_nil]
    rfl

theorem build_keys {fields : Entries} (h : (fields.map Prod.fst).Nodup) :
    build (keyStatements fields) = some fields := by
  have hsections := sections_pairs (plainPairs fields) []
  have hkeys : insertKeys .header [] (plainPairs fields) = some fields := insertKeys_plain h
  rw [List.append_nil] at hsections
  rw [build, keyStatements, hsections]
  simp only [sections, List.append_nil, hkeys]
  rfl

theorem build_tables {fields : Entries} {name : String} {tables : List Entries}
    (h : (fields.map Prod.fst).Nodup) (hname : ∀ e ∈ fields, e.1 ≠ name)
    (htables : ∀ table ∈ tables, (table.map Prod.fst).Nodup) (hne : tables ≠ []) :
    build (keyStatements fields ++ tableStatements name tables) =
      some (fields ++ [(name, tableArray tables)]) := by
  have hkeys : insertKeys .header [] (plainPairs fields) = some fields := insertKeys_plain h
  rw [build, keyStatements, sections_pairs, sections_tables]
  simp only [List.append_nil, hkeys]
  exact insertSections_array hname htables hne

end ToolBootstrap.Toml
