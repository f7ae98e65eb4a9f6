import ToolBootstrap.Proofs.Versions

/- The text of a version.

   A version is written as its three numbers, without needless zeros, the segments of its
   pre-release part behind a hyphen, and those of its build metadata behind a plus. Reading is the
   inverse of this: it accepts the texts of legal versions and nothing else, each as the version
   that it writes (`parse_ok_iff`). There is one lemma of this kind for each step of the reader. -/

namespace ToolBootstrap.SemVer

theorem ok_of_bind {ε α β : Type} {x : Except ε α} {f : α → Except ε β} {b : β}
    (h : x >>= f = .ok b) : ∃ a, x = .ok a ∧ f a = .ok b := by
  cases x with
  | error fault => cases h
  | ok a => exact ⟨a, rfl, h⟩

/-! ## Numbers -/

theorem numberOf_eq (digits : List Char) : numberOf digits = Nat.ofDigitChars 10 digits 0 := by
  simp only [numberOf, Nat.ofDigitChars, Nat.mul_comm]

theorem digitChar_value {c : Char} (h : c.isDigit = true) :
    c.toNat - '0'.toNat < 10 ∧ (c.toNat - '0'.toNat).digitChar = c := by
  obtain ⟨hlow, hhigh⟩ := isDigit_range h
  have hzero : '0'.toNat = 48 := rfl
  have hten : ∀ n < 10, n.digitChar = Char.ofNat (n + 48) := by decide
  have hlt : c.toNat - '0'.toNat < 10 := by omega
  refine ⟨hlt, ?_⟩
  calc (c.toNat - '0'.toNat).digitChar
      = Char.ofNat (c.toNat - '0'.toNat + 48) := hten _ hlt
    _ = Char.ofNat c.toNat := by rw [hzero, Nat.sub_add_cancel hlow]
    _ = c := Char.ofNat_toNat c

/-- Digits without a needless zero in front are the text of the number that they write. -/
theorem toDigits_numberOf {digits : List Char} (hne : digits ≠ [])
    (hdigits : ∀ c ∈ digits, c.isDigit = true)
    (hzero : digits.head? = some '0' → digits = ['0']) :
    Nat.toDigits 10 (numberOf digits) = digits := by
  induction digits using List.reverseRecOn with
  | nil => exact absurd rfl hne
  | append_singleton front c ih =>
    obtain ⟨hlt, hc⟩ := digitChar_value (hdigits c (by simp))
    have hvalue : numberOf (front ++ [c]) = 10 * numberOf front + (c.toNat - '0'.toNat) := by
      rw [numberOf_eq, numberOf_eq, Nat.ofDigitChars_append]
      rfl
    rw [hvalue]
    by_cases hfront : front = []
    · subst hfront
      rw [show numberOf [] = 0 from rfl, Nat.mul_zero, Nat.zero_add, Nat.toDigits_of_lt_base hlt,
        hc]
      rfl
    · -- The front has no zero in front either, not even a lone one.
      have hhead : front.head? ≠ some '0' := by
        intro h
        have hall : front ++ [c] = ['0'] := hzero (by rw [List.head?_append, h]; rfl)
        have hlen : front.length + 1 = 1 := by simpa using congrArg List.length hall
        exact hfront (List.eq_nil_of_length_eq_zero (Nat.succ.inj hlen))
      have ih' : Nat.toDigits 10 (numberOf front) = front :=
        ih hfront (fun d hd => hdigits d (by simp [hd])) fun h => absurd h hhead
      have hpos : numberOf front ≠ 0 := by
        intro h
        rw [h] at ih'
        exact hhead (by rw [← ih']; rfl)
      rw [← Nat.toDigits_append_toDigits (by decide) (Nat.pos_of_ne_zero hpos) hlt, ih',
        Nat.toDigits_of_lt_base hlt, hc]

theorem numberOf_toDigits (n : Nat) : numberOf (Nat.toDigits 10 n) = n := by
  rw [numberOf_eq]
  exact Nat.ofDigitChars_toDigits (by decide) (by decide)

theorem toDigits_zero_head {n : Nat} (h : (Nat.toDigits 10 n).head? = some '0') :
    Nat.toDigits 10 n = ['0'] := by
  by_cases hzero : n = 0
  · subst hzero
    rfl
  · obtain ⟨c, tail, heq, hc⟩ := toDigits_head hzero
    rw [heq] at h
    exact absurd (Option.some.inj h) hc

theorem number_toDigits {part : Part} {n : Nat} (hlimit : n ≤ numberLimit) {rest : List Char}
    (hrest : Stops Char.isDigit rest) :
    number part (Nat.toDigits 10 n ++ rest) = .ok (n, rest) := by
  have htake : (Nat.toDigits 10 n ++ rest).takeWhile Char.isDigit = Nat.toDigits 10 n :=
    takeWhile_run (fun _ => isDigit_of_toDigits) hrest
  have hdrop : (Nat.toDigits 10 n ++ rest).dropWhile Char.isDigit = rest :=
    dropWhile_run (fun _ => isDigit_of_toDigits) hrest
  unfold number
  rw [htake, hdrop]
  split
  · rename_i hnil
    exact absurd hnil Nat.toDigits_ne_nil
  · rename_i next tail hzero
    have hlone := toDigits_zero_head (n := n) (by rw [hzero]; rfl)
    rw [hzero] at hlone
    cases hlone
  · rw [numberOf_toDigits, if_neg (Nat.not_lt.mpr hlimit)]

theorem number_spec {part : Part} {cs rest : List Char} {n : Nat}
    (h : number part cs = .ok (n, rest)) :
    cs = Nat.toDigits 10 n ++ rest ∧ n ≤ numberLimit ∧ Stops Char.isDigit rest := by
  have hdigits : ∀ c ∈ cs.takeWhile Char.isDigit, c.isDigit = true :=
    fun c hc => List.mem_takeWhile_imp hc
  unfold number at h
  split at h
  · split at h <;> cases h
  · cases h
  · rename_i hne hzero
    split at h
    · cases h
    · rename_i hlimit
      cases h
      have hcanonical : Nat.toDigits 10 (numberOf (cs.takeWhile Char.isDigit)) =
          cs.takeWhile Char.isDigit := by
        refine toDigits_numberOf hne hdigits fun hhead => ?_
        obtain ⟨tail, htail⟩ := List.head?_eq_some_iff.mp hhead
        cases tail with
        | nil => exact htail
        | cons next tail => exact absurd htail (hzero next tail)
      rw [hcanonical]
      exact ⟨List.takeWhile_append_dropWhile.symm, Nat.le_of_not_lt hlimit, stops_dropWhile _ _⟩

theorem number_ok_iff {part : Part} {cs rest : List Char} {n : Nat} :
    number part cs = .ok (n, rest) ↔
      cs = Nat.toDigits 10 n ++ rest ∧ n ≤ numberLimit ∧ Stops Char.isDigit rest := by
  refine ⟨number_spec, ?_⟩
  intro ⟨he, hlimit, hrest⟩
  subst he
  exact number_toDigits hlimit hrest

theorem dot_ok_iff {part : Part} {cs rest : List Char} :
    dot part cs = .ok rest ↔ cs = '.' :: rest := by
  constructor
  · intro h
    unfold dot at h
    split at h
    · cases h
      rfl
    · cases h
    · cases h
  · intro he
    subst he
    rfl

/-! ## Segments -/

/-- A segment that its part allows. -/
structure IsSegment (part : Part) (segment : List Char) : Prop where
  ne_nil : segment ≠ []
  chars : ∀ c ∈ segment, isSegmentChar c = true
  /-- A number in a pre-release part has no needless zero in front. -/
  zero : part = .preRelease → (∀ c ∈ segment, c.isDigit = true) → segment.head? = some '0' →
    segment = ['0']

theorem eq_zero_iff {segment : List Char} (h : segment.head? = some '0') :
    segment = ['0'] ↔ ¬ 1 < segment.length := by
  obtain ⟨tail, rfl⟩ := List.head?_eq_some_iff.mp h
  cases tail <;> simp

theorem checkSegment_ok_iff {part : Part} {segment : List Char}
    (hchars : ∀ c ∈ segment, isSegmentChar c = true) :
    checkSegment part segment = .ok () ↔ IsSegment part segment := by
  unfold checkSegment
  split
  · rename_i hnil
    exact ⟨nofun, fun h => absurd hnil h.ne_nil⟩
  split
  · rename_i hzero
    obtain ⟨hpart, hdigits, hlong, hhead⟩ := hzero
    refine ⟨nofun, fun h => ?_⟩
    have hlone := h.zero hpart (List.all_eq_true.mp hdigits) hhead
    exact absurd hlong ((eq_zero_iff hhead).mp hlone)
  · rename_i hne hzero
    refine ⟨fun _ => ⟨hne, hchars, fun hpart hdigits hhead => ?_⟩, fun _ => rfl⟩
    rw [eq_zero_iff hhead]
    exact fun hlong => hzero ⟨hpart, List.all_eq_true.mpr hdigits, hlong, hhead⟩

theorem checkSegments_ok_iff {part : Part} {parts : List (List Char)}
    (hchars : ∀ segment ∈ parts, ∀ c ∈ segment, isSegmentChar c = true) :
    checkSegments part parts = .ok () ↔ ∀ segment ∈ parts, IsSegment part segment := by
  induction parts with
  | nil => simp [checkSegments]
  | cons segment rest ih =>
    obtain ⟨hfirst, hothers⟩ := List.forall_mem_cons.mp hchars
    rw [List.forall_mem_cons, ← checkSegment_ok_iff hfirst, ← ih hothers, checkSegments]
    cases checkSegment part segment with
    | error fault => exact ⟨nofun, fun h => nomatch h.1⟩
    | ok done => exact ⟨fun h => ⟨rfl, h⟩, fun h => h.2⟩

/-- What segments and the points between them are made of. -/
def isInside (c : Char) : Bool := isSegmentChar c || c == '.'

theorem segmentChar_ne_point {c : Char} (h : isSegmentChar c = true) : c ≠ '.' := by
  intro he
  subst he
  exact absurd h (by decide)

theorem isInside_of_mem_intercalate {part : Part} {parts : List (List Char)}
    (h : ∀ segment ∈ parts, IsSegment part segment) {c : Char} (hc : c ∈ ['.'].intercalate parts) :
    isInside c = true := by
  induction parts with
  | nil => cases hc
  | cons segment rest ih =>
    obtain ⟨hfirst, hothers⟩ := List.forall_mem_cons.mp h
    cases rest with
    | nil =>
      rw [List.intercalate_singleton] at hc
      simp [isInside, hfirst.chars c hc]
    | cons next rest =>
      rw [List.intercalate_cons_cons, List.mem_append, List.mem_append] at hc
      rcases hc with (hc | hc) | hc
      · simp [isInside, hfirst.chars c hc]
      · simp [isInside, List.mem_singleton.mp hc]
      · exact ih hothers hc

theorem intercalate_ne_nil {part : Part} {parts : List (List Char)}
    (h : ∀ segment ∈ parts, IsSegment part segment) (hne : parts ≠ []) :
    ['.'].intercalate parts ≠ [] := by
  obtain ⟨segment, rest, rfl⟩ := List.exists_cons_of_ne_nil hne
  have hsegment : segment ≠ [] := (h segment List.mem_cons_self).ne_nil
  cases rest with
  | nil => rwa [List.intercalate_singleton]
  | cons next rest =>
    rw [List.intercalate_cons_cons, List.append_assoc]
    exact List.append_ne_nil_of_left_ne_nil hsegment _

/-- Segments are read from their text up to what cannot stand in one. -/
theorem segments_ok_iff {part : Part} {cs rest : List Char} {parts : List (List Char)} :
    segments part cs = .ok (parts, rest) ↔
      cs = ['.'].intercalate parts ++ rest ∧ parts ≠ [] ∧
        (∀ segment ∈ parts, IsSegment part segment) ∧ Stops isInside rest := by
  unfold segments
  dsimp only
  rw [show (fun c => isSegmentChar c || c == '.') = isInside from rfl]
  constructor
  · intro h
    split at h
    · cases h
    · rename_i hcheck
      cases h
      have hchars : ∀ segment ∈ (cs.takeWhile isInside).splitOn '.', ∀ c ∈ segment,
          isSegmentChar c = true := by
        intro segment hsegment c hc
        have hinside : isInside c = true :=
          List.mem_takeWhile_imp ((infix_of_mem_splitOn hsegment).subset hc)
        have hne : c ≠ '.' := fun h => not_mem_of_mem_splitOn segment hsegment (h ▸ hc)
        simpa [isInside, hne] using hinside
      refine ⟨?_, List.splitOn_ne_nil _ _, (checkSegments_ok_iff hchars).mp hcheck,
        stops_dropWhile _ _⟩
      rw [List.intercalate_splitOn, List.takeWhile_append_dropWhile]
  · intro ⟨he, hne, hparts, hrest⟩
    subst he
    have hinside : ∀ c ∈ ['.'].intercalate parts, isInside c = true :=
      fun c hc => isInside_of_mem_intercalate hparts hc
    have hpoint : ∀ segment ∈ parts, '.' ∉ segment := fun segment hsegment hmem =>
      segmentChar_ne_point ((hparts segment hsegment).chars _ hmem) rfl
    rw [takeWhile_run hinside hrest, dropWhile_run hinside hrest,
      List.splitOn_intercalate '.' hpoint hne,
      (checkSegments_ok_iff fun segment hsegment => (hparts segment hsegment).chars).mpr hparts]

/-- The text of segments behind a mark; nothing, where there are none. -/
def behind (mark : Char) : List (List Char) → List Char
  | [] => []
  | parts => mark :: ['.'].intercalate parts

theorem behind_of_ne_nil {mark : Char} {parts : List (List Char)} (h : parts ≠ []) :
    behind mark parts = mark :: ['.'].intercalate parts := by
  cases parts with
  | nil => exact absurd rfl h
  | cons segment rest => rfl

theorem marked_mark (mark : Char) (part : Part) (cs : List Char) :
    marked mark part (mark :: cs) = segments part cs := if_pos rfl

theorem marked_of_stops {mark : Char} {part : Part} {cs : List Char} (h : Stops (· == mark) cs) :
    marked mark part cs = .ok ([], cs) := by
  cases cs with
  | nil => rfl
  | cons c tail => exact if_neg (by simpa using stops_cons_iff.mp h)

theorem stops_mark_iff {mark : Char} {cs : List Char} :
    Stops (· == mark) cs ↔ ∀ tail, cs ≠ mark :: tail := by
  cases cs with
  | nil => exact ⟨fun _ _ => nofun, fun _ => stops_nil⟩
  | cons c tail => simp [stops_cons_iff]

/-- Segments behind a mark are read from their text; none, where another character stands. -/
theorem marked_ok_iff {mark : Char} {part : Part} {cs rest : List Char} {parts : List (List Char)} :
    marked mark part cs = .ok (parts, rest) ↔
      cs = behind mark parts ++ rest ∧ (∀ segment ∈ parts, IsSegment part segment) ∧
        (parts = [] → Stops (· == mark) rest) ∧ (parts ≠ [] → Stops isInside rest) := by
  by_cases hstop : Stops (· == mark) cs
  · rw [marked_of_stops hstop]
    constructor
    · intro h
      cases h
      exact ⟨rfl, by simp, fun _ => hstop, fun h => absurd rfl h⟩
    · intro ⟨he, _, _, _⟩
      subst he
      by_cases hne : parts = []
      · subst hne
        rfl
      · rw [behind_of_ne_nil hne] at hstop
        exact absurd rfl (stops_mark_iff.mp hstop _)
  · obtain ⟨tail, rfl⟩ : ∃ tail, cs = mark :: tail := by
      simpa [stops_mark_iff] using hstop
    rw [marked_mark, segments_ok_iff]
    constructor
    · intro ⟨he, hne, hparts, hrest⟩
      subst he
      exact ⟨by rw [behind_of_ne_nil hne]; rfl, hparts, fun h => absurd h hne, fun _ => hrest⟩
    · intro ⟨htext, hparts, hnone, hsome⟩
      by_cases hne : parts = []
      · subst hne
        -- The mark would be what must not come next.
        exact absurd (show rest = mark :: tail from htext.symm) (stops_mark_iff.mp (hnone rfl) tail)
      · rw [behind_of_ne_nil hne, List.cons_append] at htext
        exact ⟨(List.cons.inj htext).2, hne, hparts, hsome hne⟩

/-! ## Versions -/

namespace Version

def text (v : Version) : List Char :=
  Nat.toDigits 10 v.major ++ '.' :: (Nat.toDigits 10 v.minor ++ '.' :: (Nat.toDigits 10 v.patch ++
    (behind '-' v.preRelease ++ behind '+' v.build)))

/-- A version that can be written: its numbers are within the limit, and its segments are such as
their parts allow. -/
structure Legal (v : Version) : Prop where
  major : v.major ≤ numberLimit
  minor : v.minor ≤ numberLimit
  patch : v.patch ≤ numberLimit
  preRelease : ∀ segment ∈ v.preRelease, IsSegment .preRelease segment
  build : ∀ segment ∈ v.build, IsSegment .build segment

end Version

theorem isMarked_behind {part : Part} {parts : List (List Char)} (mark : Char)
    (h : ∀ segment ∈ parts, IsSegment part segment) : IsMarked mark (behind mark parts) := by
  by_cases hne : parts = []
  · subst hne
    exact Or.inl rfl
  · refine Or.inr ⟨_, behind_of_ne_nil hne, intercalate_ne_nil h hne, fun c hc => ?_⟩
    simpa [isInside] using isInside_of_mem_intercalate h hc

theorem Version.Legal.spelling {v : Version} (h : v.Legal) : Spelling v.text := by
  have hnumeral : ∀ n, IsNumeral (Nat.toDigits 10 n) := fun n =>
    ⟨Nat.toDigits_ne_nil, fun _ => isDigit_of_toDigits⟩
  exact .of (hnumeral _) (hnumeral _) (hnumeral _) (isMarked_behind '-' h.preRelease)
    (isMarked_behind '+' h.build)

theorem stops_behind {p : Char → Bool} {mark : Char} (hmark : p mark = false)
    (parts : List (List Char)) {rest : List Char} (hrest : Stops p rest) :
    Stops p (behind mark parts ++ rest) := by
  cases parts with
  | nil => exact hrest
  | cons segment others => exact stops_cons_iff.mpr hmark

theorem text_of_parseChars {cs : List Char} {v : Version} (h : parseChars cs = .ok v) :
    cs = v.text ∧ v.Legal := by
  unfold parseChars at h
  split at h
  · cases h
  obtain ⟨⟨major, _⟩, hmajor, hrest⟩ := ok_of_bind h
  obtain ⟨_, hdot, hrest⟩ := ok_of_bind hrest
  obtain ⟨⟨minor, _⟩, hminor, hrest⟩ := ok_of_bind hrest
  obtain ⟨_, hdot', hrest⟩ := ok_of_bind hrest
  obtain ⟨⟨patch, _⟩, hpatch, hrest⟩ := ok_of_bind hrest
  obtain ⟨⟨preRelease, _⟩, hpre, hrest⟩ := ok_of_bind hrest
  obtain ⟨⟨build, rest⟩, hbuild, hlast⟩ := ok_of_bind hrest
  obtain ⟨rfl, lmajor, _⟩ := number_ok_iff.mp hmajor
  obtain rfl := dot_ok_iff.mp hdot
  obtain ⟨rfl, lminor, _⟩ := number_ok_iff.mp hminor
  obtain rfl := dot_ok_iff.mp hdot'
  obtain ⟨rfl, lpatch, _⟩ := number_ok_iff.mp hpatch
  obtain ⟨rfl, spre, _⟩ := marked_ok_iff.mp hpre
  obtain ⟨rfl, sbuild, _⟩ := marked_ok_iff.mp hbuild
  cases rest with
  | nil =>
    cases hlast
    exact ⟨by rw [List.append_nil]; rfl, lmajor, lminor, lpatch, spre, sbuild⟩
  | cons c tail => cases hlast

theorem parseChars_text {v : Version} (hlegal : v.Legal) : parseChars v.text = .ok v := by
  -- What follows each part ends it: a point, a mark of a later part, or the end of the text.
  have hends : ∀ {p : Char → Bool}, p '+' = false → Stops p (behind '+' v.build) := by
    intro p hp
    simpa using stops_behind hp v.build stops_nil
  have hbuild : marked '+' .build (behind '+' v.build) = .ok (v.build, []) :=
    marked_ok_iff.mpr
      ⟨(List.append_nil _).symm, hlegal.build, fun _ => stops_nil, fun _ => stops_nil⟩
  have hpre : marked '-' .preRelease (behind '-' v.preRelease ++ behind '+' v.build) =
      .ok (v.preRelease, behind '+' v.build) :=
    marked_ok_iff.mpr
      ⟨rfl, hlegal.preRelease, fun _ => hends (by decide), fun _ => hends (by decide)⟩
  have hpatch : number .patch (Nat.toDigits 10 v.patch ++
      (behind '-' v.preRelease ++ behind '+' v.build)) =
      .ok (v.patch, behind '-' v.preRelease ++ behind '+' v.build) :=
    number_toDigits hlegal.patch (stops_behind (by decide) _ (hends (by decide)))
  have hfollowed : ∀ (part : Part) {n : Nat}, n ≤ numberLimit → ∀ rest,
      number part (Nat.toDigits 10 n ++ '.' :: rest) = .ok (n, '.' :: rest) :=
    fun part _ hn rest => number_toDigits hn (stops_cons_iff.mpr (by decide))
  have hne : v.text ≠ [] := List.append_ne_nil_of_left_ne_nil Nat.toDigits_ne_nil _
  unfold parseChars
  rw [if_neg hne]
  simp only [Version.text, hfollowed _ hlegal.major, hfollowed _ hlegal.minor, hpatch, hpre,
    hbuild, dot, bind, Except.bind, pure, Except.pure]

theorem parseChars_ok_iff {cs : List Char} {v : Version} :
    parseChars cs = .ok v ↔ cs = v.text ∧ v.Legal := by
  refine ⟨text_of_parseChars, ?_⟩
  intro ⟨he, hlegal⟩
  subst he
  exact parseChars_text hlegal

/-- A text is read as a version exactly if it is the text of that version, and the version is legal.
-/
theorem parse_ok_iff {text : String} {v : Version} :
    parse text = .ok v ↔ text.toList = v.text ∧ v.Legal := parseChars_ok_iff

theorem spelling_of_parse {text : String} {v : Version} (h : parse text = .ok v) :
    Spelling text.toList := by
  obtain ⟨htext, hlegal⟩ := parse_ok_iff.mp h
  rw [htext]
  exact hlegal.spelling

end ToolBootstrap.SemVer
