import ToolBootstrap.Proofs.PathText
import ToolBootstrap.Proofs.Versions
import ToolBootstrap.Shell

/- The texts that name a shell.

   A text is read as a path, without the white space around it, and the last name of that path is
   compared in lower case. The last name is what stands behind the last slash once the end of the
   path that names nothing is left out (`fileName?_ofText_iff`), and a text in lower case is a name
   of plain letters exactly if only the case of its letters differs (`flatMap_lowerChar_iff`). So a
   text names a shell exactly if it ends in the shell's name, behind a slash or by itself, and in
   front of nothing but slashes and points (`named_iff`). A text in which no last name is found
   names no shell. -/

namespace ToolBootstrap

/-! ## Lower case -/

/-- A name is the lower case of the texts that differ from it in the case of ASCII letters. The
names meant here hold no `k`, which is the lower case of a sign beyond ASCII too. -/
theorem flatMap_lowerChar_iff {name : List Char} (hname : ∀ c ∈ name, c.toNat < 0x80 ∧ c ≠ 'k')
    (cs : List Char) : cs.flatMap lowerChar = name ↔ cs.map Char.toLower = name := by
  induction cs generalizing name with
  | nil => exact Iff.rfl
  | cons c rest ih =>
    cases name with
    | nil =>
      have hsome : lowerChar c ≠ [] := by
        unfold lowerChar
        split_ifs <;> exact List.cons_ne_nil _ _
      simp [hsome]
    | cons n name =>
      obtain ⟨⟨hn, hk⟩, hrest⟩ := List.forall_mem_cons.mp hname
      rw [List.flatMap_cons, List.map_cons, List.cons_eq_cons, lowerChar]
      split_ifs with hdotted hkelvin
      · -- The dot of the capital I with a dot is no character of a name.
        subst hdotted
        constructor
        · intro h
          have hdot : '\u0307' ∈ name := by
            rw [← (List.cons_eq_cons.mp h).2]
            exact List.mem_cons_self
          exact absurd (hrest _ hdot).1 (by decide)
        · intro ⟨he, _⟩
          subst he
          exact absurd hn (by decide)
      · subst hkelvin
        constructor
        · intro h
          exact absurd (List.cons_eq_cons.mp h).1.symm hk
        · intro ⟨he, _⟩
          subst he
          exact absurd hn (by decide)
      · rw [List.singleton_append, List.cons_eq_cons, ih hrest]

theorem isAlpha_of_toLower {c : Char} (h : c.toLower.isAlpha = true) : c.isAlpha = true := by
  unfold Char.toLower at h
  split at h
  · rename_i hupper
    have hletter : c.isUpper = true := decide_eq_true hupper
    show (c.isUpper || c.isLower) = true
    rw [hletter, Bool.true_or]
  · exact h

/-! ## The last name of a path -/

namespace Path

/-- The end of a path that names nothing: slashes, each with a point behind it or without. -/
inductive IdleEnd : List Char → Prop where
  | none : IdleEnd []
  | slash {rest : List Char} : IdleEnd rest → IdleEnd ('/' :: rest)
  | point {rest : List Char} : IdleEnd rest → IdleEnd ('/' :: '.' :: rest)

theorem encodeChars_slash (cs : List Char) :
    Utf8.encodeChars ('/' :: cs) = slash :: Utf8.encodeChars cs := rfl

theorem encodeChars_point (cs : List Char) :
    Utf8.encodeChars ('.' :: cs) = dotName ++ Utf8.encodeChars cs := rfl

theorem IdleEnd.steps {cs : List Char} (h : IdleEnd cs) (octets : Bytes) :
    steps (octets ++ Utf8.encodeChars cs) = steps octets := by
  have hnil : Path.steps [] = [] := rfl
  have hdot : Path.steps dotName = [] := by decide
  induction h generalizing octets with
  | none => rw [Utf8.encodeChars_nil, List.append_nil]
  | slash _ ih =>
    rw [encodeChars_slash, steps_append_slash, ← List.nil_append (Utf8.encodeChars _), ih, hnil,
      List.append_nil]
  | point _ ih =>
    rw [encodeChars_slash, encodeChars_point, steps_append_slash, ih, hdot, List.append_nil]

theorem idleEnd_of_parts {parts : List (List Char)} (h : ∀ part ∈ parts, part = [] ∨ part = ['.']) :
    IdleEnd (parts.flatMap ('/' :: ·)) := by
  induction parts with
  | nil => exact .none
  | cons part rest ih =>
    obtain ⟨hpart, hrest⟩ := List.forall_mem_cons.mp h
    rcases hpart with rfl | rfl
    · exact .slash (ih hrest)
    · exact .point (ih hrest)

/-- A path names the last of its names as a file, unless that is a way up. -/
theorem fileName?_iff {p : Path} {name : Bytes} :
    p.fileName? = some name ↔ (steps p.octets).getLast? = some name ∧ name ≠ dotDotName := by
  unfold fileName?
  rw [components_eq]
  rcases List.eq_nil_or_concat' (steps p.octets) with hnone | ⟨front, last, hsteps⟩
  · rw [hnone, List.map_nil, List.append_nil]
    rcases p.split_cases with hlead | hlead | ⟨hlead, -⟩ <;> simp [hlead]
  · rw [hsteps, List.map_append, List.map_singleton, ← List.append_assoc, List.getLast?_concat,
      List.getLast?_concat, componentOf]
    split_ifs with hup
    · simp [hup, eq_comm]
    · constructor
      · intro h
        cases h
        exact ⟨rfl, hup⟩
      · intro h
        cases h.1
        rfl

theorem getLast?_kept {parts : List Bytes} {name : Bytes} (h : (kept parts).getLast? = some name) :
    ¬ (name = [] ∨ name = dotName) ∧ ∃ before after, parts = before ++ name :: after ∧
      ∀ part ∈ after, part = [] ∨ part = dotName := by
  have hkept : kept parts = parts.filter fun part => decide (¬ (part = [] ∨ part = dotName)) := by
    unfold kept
    rw [List.filter_filter]
    congr 1
    funext part
    simp [and_comm]
  rw [hkept, List.getLast?_filter, List.find?_eq_some_iff_append] at h
  obtain ⟨hname, after, before, hparts, hafter⟩ := h
  refine ⟨by simpa using hname, before.reverse, after.reverse, ?_, ?_⟩
  · rw [← parts.reverse_reverse, hparts]
    simp
  · intro part hpart
    simpa using hafter part (List.mem_reverse.mp hpart)

end Path

/-! ## Parts of a text -/

namespace Utf8

theorem decode?_encodeChars (cs : List Char) :
    decode? (encodeChars cs) = some (String.ofList cs) := by
  rw [← encode_ofList]
  exact decode?_encode _

theorem encodeChars_intercalate (parts : List (List Char)) :
    encodeChars (['/'].intercalate parts) = [slash].intercalate (parts.map encodeChars) := by
  cases parts with
  | nil => rfl
  | cons part rest =>
    rw [List.map_cons, intercalate_cons_flatMap, intercalate_cons_flatMap, encodeChars_append,
      List.flatMap_map, encodeChars, encodeChars, List.flatMap_assoc]
    rfl

theorem slash_not_mem_encodeChars {cs : List Char} (h : '/' ∉ cs) : slash ∉ encodeChars cs := by
  intro hmem
  obtain ⟨front, back, hcut⟩ := List.append_of_mem hmem
  obtain ⟨s, c, t, rfl, -, hc, -⟩ := encodeChars_split (by decide) hcut
  have hsame : encodeChars [c] = encodeChars ['/'] := by
    rw [encodeChars, List.flatMap_singleton, hc]
    rfl
  obtain rfl := List.singleton_inj.mp (encodeChars_injective hsame)
  exact h (by simp)

theorem splitOn_encodeChars (cs : List Char) :
    (encodeChars cs).splitOn slash = (cs.splitOn '/').map encodeChars := by
  have hparts : ∀ part ∈ (cs.splitOn '/').map encodeChars, slash ∉ part := by
    intro part hpart
    obtain ⟨chars, hchars, rfl⟩ := List.mem_map.mp hpart
    exact slash_not_mem_encodeChars (not_mem_of_mem_splitOn chars hchars)
  have hne : (cs.splitOn '/').map encodeChars ≠ [] := by simp [List.splitOn_ne_nil]
  calc (encodeChars cs).splitOn slash
      = (encodeChars (['/'].intercalate (cs.splitOn '/'))).splitOn slash := by
        rw [List.intercalate_splitOn]
    _ = ([slash].intercalate ((cs.splitOn '/').map encodeChars)).splitOn slash := by
        rw [encodeChars_intercalate]
    _ = (cs.splitOn '/').map encodeChars := List.splitOn_intercalate slash hparts hne

end Utf8

namespace Path

theorem steps_ofText (text : String) :
    steps (ofText text).octets = kept ((text.toList.splitOn '/').map Utf8.encodeChars) := by
  rw [← Utf8.splitOn_encodeChars]
  rfl

/-- The last name of a path is one of the parts of its text, and those behind it name nothing. -/
theorem text_of_getLast? {text : String} {octets : Bytes}
    (h : (steps (ofText text).octets).getLast? = some octets) :
    ∃ front name rest, text.toList = front ++ name ++ rest ∧
      (front = [] ∨ front.getLast? = some '/') ∧ IdleEnd rest ∧ '/' ∉ name ∧
      name ∉ [[], ['.']] ∧ octets = Utf8.encodeChars name := by
  rw [steps_ofText] at h
  obtain ⟨hname, before, after, hparts, hafter⟩ := getLast?_kept h
  obtain ⟨front, behind, hsplit, -, hbehind⟩ := List.map_eq_append_iff.mp hparts
  obtain ⟨name, rest, rfl, rfl, rfl⟩ := List.map_eq_cons_iff.mp hbehind
  have htext : text.toList = front.flatMap (· ++ ['/']) ++ name ++ rest.flatMap ('/' :: ·) := by
    rw [← intercalate_append_cons, ← hsplit, List.intercalate_splitOn]
  refine ⟨_, name, _, htext, ?_, idleEnd_of_parts ?_, ?_, ?_, rfl⟩
  · rcases List.eq_nil_or_concat' front with rfl | ⟨init, last, rfl⟩
    · exact Or.inl rfl
    · right
      simp
  · intro part hpart
    rcases hafter _ (List.mem_map_of_mem hpart) with hnil | hdot
    · exact Or.inl (Utf8.encodeChars_injective hnil)
    · exact Or.inr (Utf8.encodeChars_injective (t := ['.']) hdot)
  · apply not_mem_of_mem_splitOn name
    rw [hsplit]
    simp
  · intro hmem
    simp only [List.mem_cons, List.not_mem_nil, or_false] at hmem
    rcases hmem with rfl | rfl
    · exact hname (Or.inl rfl)
    · exact hname (Or.inr rfl)

/-- A name behind nothing or behind a slash is the last one, whatever end that names nothing
follows. -/
theorem getLast?_of_text {text : String} {front name rest : List Char}
    (htext : text.toList = front ++ name ++ rest)
    (hfront : front = [] ∨ front.getLast? = some '/') (hrest : IdleEnd rest) (hslash : '/' ∉ name)
    (hname : name ∉ [[], ['.']]) :
    (steps (ofText text).octets).getLast? = some (Utf8.encodeChars name) := by
  simp only [List.mem_cons, List.not_mem_nil, or_false, not_or] at hname
  obtain ⟨hnil, hdot⟩ := hname
  have hidle : ¬ (Utf8.encodeChars name = [] ∨ Utf8.encodeChars name = dotName) := by
    intro h
    rcases h with h | h
    · exact hnil (Utf8.encodeChars_injective h)
    · exact hdot (Utf8.encodeChars_injective (t := ['.']) h)
  have hone : steps (Utf8.encodeChars name) = [Utf8.encodeChars name] :=
    steps_of_name hidle (Utf8.slash_not_mem_encodeChars hslash)
  have hsteps : steps (ofText text).octets =
      steps (Utf8.encodeChars front ++ Utf8.encodeChars name) := by
    show steps (Utf8.encodeChars text.toList) = _
    rw [htext, Utf8.encodeChars_append, Utf8.encodeChars_append, hrest.steps]
  rw [hsteps]
  rcases hfront with rfl | hfront
  · rw [Utf8.encodeChars_nil, List.nil_append, hone]
    rfl
  · obtain ⟨init, rfl⟩ := List.getLast?_eq_some_iff.mp hfront
    have hcut : Utf8.encodeChars (init ++ ['/']) ++ Utf8.encodeChars name =
        Utf8.encodeChars init ++ slash :: Utf8.encodeChars name := by
      rw [Utf8.encodeChars_append, List.append_assoc]
      rfl
    rw [hcut, steps_append_slash, hone, List.getLast?_concat]

/-- The last name of a text that is read as a path: it stands behind nothing or behind a slash, and
in front of an end that names nothing. -/
theorem fileName?_ofText_iff {text : String} {octets : Bytes} :
    (ofText text).fileName? = some octets ↔
      ∃ front name rest, text.toList = front ++ name ++ rest ∧
        (front = [] ∨ front.getLast? = some '/') ∧ IdleEnd rest ∧ '/' ∉ name ∧
        name ∉ [[], ['.'], ['.', '.']] ∧ octets = Utf8.encodeChars name := by
  rw [fileName?_iff]
  constructor
  · intro ⟨hlast, hup⟩
    obtain ⟨front, name, rest, htext, hfront, hrest, hslash, hname, rfl⟩ := text_of_getLast? hlast
    refine ⟨front, name, rest, htext, hfront, hrest, hslash, ?_, rfl⟩
    simp only [List.mem_cons, List.not_mem_nil, or_false, not_or] at hname ⊢
    refine ⟨hname.1, hname.2, ?_⟩
    intro he
    subst he
    exact hup rfl
  · intro ⟨front, name, rest, htext, hfront, hrest, hslash, hname, he⟩
    subst he
    simp only [List.mem_cons, List.not_mem_nil, or_false, not_or] at hname
    obtain ⟨hnil, hdot, hup⟩ := hname
    exact ⟨getLast?_of_text htext hfront hrest hslash (by simp [hnil, hdot]),
      fun h => hup (Utf8.encodeChars_injective (t := ['.', '.']) h)⟩

end Path

/-! ## Names of shells -/

namespace Shell

theorem name_chars (shell : Shell) :
    ∀ c ∈ shell.name.toList, (c.toNat < 0x80 ∧ c ≠ 'k') ∧ c.isAlpha = true := by
  have hall : shell.name.toList.all
      (fun c => decide ((c.toNat < 0x80 ∧ c ≠ 'k') ∧ c.isAlpha = true)) = true := by
    cases shell <;> decide
  exact fun c hc => of_decide_eq_true (List.all_eq_true.mp hall c hc)

theorem ofName?_eq_some_iff {text : String} {shell : Shell} :
    ofName? text = some shell ↔
      (baseName text).toList.map Char.toLower = shell.name.toList := by
  have hlower : lowerCase (baseName text) = shell.name ↔
      (baseName text).toList.map Char.toLower = shell.name.toList := by
    rw [← flatMap_lowerChar_iff fun c hc => (shell.name_chars c hc).1, lowerCase,
      ← String.toList_inj, String.toList_ofList]
  rw [← hlower, ofName?]
  constructor
  · intro h
    simpa using List.find?_some h
  · intro h
    rw [h]
    cases shell <;> decide

theorem isAlpha_of_map {name : List Char} {shell : Shell}
    (h : name.map Char.toLower = shell.name.toList) : ∀ c ∈ name, c.isAlpha = true := by
  intro c hc
  apply isAlpha_of_toLower
  apply (shell.name_chars _ _).2
  rw [← h]
  exact List.mem_map_of_mem hc

theorem not_idle_of_map {name : List Char} {shell : Shell}
    (h : name.map Char.toLower = shell.name.toList) : name ∉ [[], ['.'], ['.', '.']] := by
  intro hmem
  simp only [List.mem_cons, List.not_mem_nil, or_false] at hmem
  rcases hmem with rfl | rfl | rfl <;> revert h <;> cases shell <;> decide

theorem trim_of_isAlpha {text : String} (h : ∀ c ∈ text.toList, c.isAlpha = true) :
    trim text = text := by
  have hstops : ∀ cs : List Char, (∀ c ∈ cs, c.isAlpha = true) → cs.dropWhile isBlank = cs := by
    intro cs hcs
    have hfirst : Stops isBlank cs := by
      intro c hc
      obtain ⟨hlow, hhigh⟩ := isAlpha_range (hcs c (List.mem_of_head? hc))
      exact isBlank_of_printed (by omega) (by omega)
    have hnone : ∀ c ∈ ([] : List Char), isBlank c = true :=
      fun c hc => absurd hc List.not_mem_nil
    exact dropWhile_run hnone hfirst
  have hreverse : ∀ c ∈ text.toList.reverse, c.isAlpha = true :=
    fun c hc => h c (List.mem_reverse.mp hc)
  rw [trim, trimChars, hstops _ h, hstops _ hreverse, List.reverse_reverse, String.ofList_toList]

theorem fileName?_of_map {text : String} {front name rest : List Char} {shell : Shell}
    (htext : text.toList = front ++ name ++ rest) (hfront : front = [] ∨ front.getLast? = some '/')
    (hname : name.map Char.toLower = shell.name.toList) (hrest : Path.IdleEnd rest) :
    (Path.ofText text).fileName? = some (Utf8.encodeChars name) := by
  have hslash : '/' ∉ name := fun hmem => absurd (isAlpha_of_map hname _ hmem) (by decide)
  exact Path.fileName?_ofText_iff.mpr
    ⟨front, name, rest, htext, hfront, hrest, hslash, not_idle_of_map hname, rfl⟩

theorem baseName_of_fileName? {text : String} {name : List Char}
    (h : (Path.ofText (trim text)).fileName? = some (Utf8.encodeChars name)) :
    baseName text = String.ofList name := by
  rw [baseName, h]
  dsimp only
  rw [Utf8.decode?_encodeChars]
  rfl

theorem ofName?_of_no_fileName {text : String}
    (h : (Path.ofText (trim text)).fileName? = none) : ofName? text = none := by
  rw [Option.eq_none_iff_forall_ne_some]
  intro shell hsome
  rw [ofName?_eq_some_iff, baseName, h] at hsome
  have hname : text.toList.map Char.toLower = shell.name.toList := hsome
  rw [trim_of_isAlpha (isAlpha_of_map hname),
    fileName?_of_map (by simp) (Or.inl rfl) hname .none] at h
  cases h

/-- A text names a shell exactly if, without the white space around it, it is the name of the shell
in any case of its letters, behind nothing or behind a slash, and in front of nothing but slashes,
each with a point or without. A text whose last name cannot be told names none. -/
theorem named_iff (text : String) :
    (∀ shell, ofName? text = some shell ↔
      ∃ front name rest, (trim text).toList = front ++ name ++ rest ∧
        (front = [] ∨ front.getLast? = some '/') ∧
        name.map Char.toLower = shell.name.toList ∧ Path.IdleEnd rest) ∧
    ((Path.ofText (trim text)).fileName?.bind Utf8.decode? = none → ofName? text = none) := by
  -- Every last name of a text is a text.
  have hcases : (Path.ofText (trim text)).fileName? = none ∨
      ∃ front name rest, (trim text).toList = front ++ name ++ rest ∧
        (front = [] ∨ front.getLast? = some '/') ∧ Path.IdleEnd rest ∧
        (Path.ofText (trim text)).fileName? = some (Utf8.encodeChars name) := by
    cases hfile : (Path.ofText (trim text)).fileName? with
    | none => exact Or.inl rfl
    | some octets =>
      obtain ⟨front, name, rest, htext, hfront, hrest, -, -, rfl⟩ :=
        Path.fileName?_ofText_iff.mp hfile
      exact Or.inr ⟨front, name, rest, htext, hfront, hrest, rfl⟩
  refine ⟨fun shell => ⟨fun h => ?_, fun h => ?_⟩, fun h => ?_⟩
  · rcases hcases with hnone | ⟨front, name, rest, htext, hfront, hrest, hfile⟩
    · rw [ofName?_of_no_fileName hnone] at h
      cases h
    · rw [ofName?_eq_some_iff, baseName_of_fileName? hfile, String.toList_ofList] at h
      exact ⟨front, name, rest, htext, hfront, h, hrest⟩
  · obtain ⟨front, name, rest, htext, hfront, hname, hrest⟩ := h
    rw [ofName?_eq_some_iff, baseName_of_fileName? (fileName?_of_map htext hfront hname hrest),
      String.toList_ofList]
    exact hname
  · rcases hcases with hnone | ⟨front, name, rest, -, -, -, hfile⟩
    · exact ofName?_of_no_fileName hnone
    · rw [hfile, Option.bind_some, Utf8.decode?_encodeChars] at h
      cases h

example : ofName? "\t/usr/BaSh//././ \u00A0" = some .bash := by decide +kernel

example : ofName? "zsh/.." = none := by decide +kernel

end Shell

end ToolBootstrap
