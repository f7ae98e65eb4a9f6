import ToolBootstrap.Proofs.Text
import ToolBootstrap.VersionToken

/- The version numbers of a text.

   `Token` says what a version number is, and by which text behind it it could be made longer.
   `Scanned` says how a text is scanned: at each place a token is taken if one starts there, and
   else one character is passed over. The search for tokens is that scan (`scanned_all`). From it: a
   character that stands in no token parts a text in two that are scanned apart (`Scanned.append`),
   and a token is found in the middle of a longer number nowhere (`Scanned.occurs`), for what stands
   in front of it was either taken, as long as it was, or passed over because no token started
   there. -/

namespace ToolBootstrap.VersionToken

/-! ## One token -/

def IsRun (cs : List Char) : Prop := cs ≠ [] ∧ ∀ c ∈ cs, isDecimalDigit c = true

/-- What may stand between the last number of a token and a rest: a pre-release part, taken to its
end, or nothing, if none starts there. -/
inductive Suffix : List Char → List Char → Prop where
  | none {rest : List Char} :
      (∀ c tail, rest = '-' :: c :: tail → isPreReleaseChar c = false) → Suffix [] rest
  | part {part rest : List Char} : part ≠ [] → (∀ c ∈ part, isPreReleaseChar c = true) →
      Stops isPreReleaseChar rest → Suffix ('-' :: part) rest

/-- A token in front of a rest by which it cannot be made longer. -/
inductive Token : List Char → List Char → Prop where
  | of {major minor patch suffix rest : List Char} : IsRun major → IsRun minor → IsRun patch →
      Suffix suffix rest → Stops isDecimalDigit (suffix ++ rest) →
      Token (major ++ '.' :: (minor ++ '.' :: (patch ++ suffix))) rest

theorem isDecimalDigit_of_isDigit {c : Char} (h : c.isDigit = true) : isDecimalDigit c = true := by
  simp [isDecimalDigit, h]

theorem isPreReleaseChar_iff (c : Char) :
    isPreReleaseChar c = true ↔ c.isAlphanum = true ∨ c = '.' ∨ c = '-' := by
  have hupper : c.isUpper = true ↔ 'A' ≤ c ∧ c ≤ 'Z' :=
    ⟨fun h => of_decide_eq_true h, fun h => decide_eq_true h⟩
  have hlower : c.isLower = true ↔ 'a' ≤ c ∧ c ≤ 'z' :=
    Bool.and_eq_true_iff.trans (and_congr decide_eq_true_iff decide_eq_true_iff)
  have halphanum : c.isAlphanum = true ↔
      c.isDigit = true ∨ c.isUpper = true ∨ c.isLower = true :=
    (Bool.or_eq_true_iff.trans (or_congr_left Bool.or_eq_true_iff)).trans or_comm
  simp only [isPreReleaseChar, halphanum, hupper, hlower, Bool.or_eq_true, Bool.and_eq_true,
    decide_eq_true_eq, beq_iff_eq, or_assoc]

theorem isPreReleaseChar_of_isDigit {c : Char} (h : c.isDigit = true) :
    isPreReleaseChar c = true := by
  simp [isPreReleaseChar, h]

theorem digits?_eq_some_iff {cs run rest : List Char} :
    digits? cs = some (run, rest) ↔ cs = run ++ rest ∧ IsRun run ∧ Stops isDecimalDigit rest := by
  constructor
  · intro h
    unfold digits? at h
    split at h
    · cases h
    · rename_i hne
      cases h
      exact ⟨List.takeWhile_append_dropWhile.symm,
        ⟨hne, fun c hc => List.mem_takeWhile_imp hc⟩, stops_dropWhile _ _⟩
  · intro ⟨he, ⟨hne, hrun⟩, hrest⟩
    subst he
    unfold digits?
    rw [takeWhile_run hrun hrest, dropWhile_run hrun hrest]
    split
    · exact absurd rfl hne
    · rfl

theorem pointDigits?_eq_some_iff {cs part rest : List Char} :
    pointDigits? cs = some (part, rest) ↔
      ∃ run, part = '.' :: run ∧ cs = '.' :: (run ++ rest) ∧ IsRun run ∧
        Stops isDecimalDigit rest := by
  constructor
  · intro h
    unfold pointDigits? at h
    split at h
    · obtain ⟨⟨run, rest'⟩, hdigits, hpart⟩ := Option.map_eq_some_iff.mp h
      cases hpart
      obtain ⟨rfl, hrun, hrest⟩ := digits?_eq_some_iff.mp hdigits
      exact ⟨run, rfl, rfl, hrun, hrest⟩
    · cases h
  · intro ⟨run, he, he', hrun, hrest⟩
    subst he
    subst he'
    rw [pointDigits?, digits?_eq_some_iff.mpr ⟨rfl, hrun, hrest⟩]
    rfl

theorem suffix_of_preRelease {cs suffix rest : List Char} (h : preRelease cs = (suffix, rest)) :
    cs = suffix ++ rest ∧ Suffix suffix rest := by
  unfold preRelease at h
  split at h
  · rename_i tail
    split at h
    · rename_i hnone
      cases h
      refine ⟨rfl, .none fun c others heq => ?_⟩
      cases heq
      by_contra hc
      simp [List.takeWhile_cons, hc] at hnone
    · rename_i hne
      cases h
      refine ⟨?_, .part hne (fun c hc => List.mem_takeWhile_imp hc) (stops_dropWhile _ _)⟩
      rw [List.cons_append, List.takeWhile_append_dropWhile]
  · rename_i hyphen
    cases h
    exact ⟨rfl, .none fun c others heq => absurd heq (hyphen _)⟩

theorem preRelease_of_suffix {suffix rest : List Char} (h : Suffix suffix rest) :
    preRelease (suffix ++ rest) = (suffix, rest) := by
  cases h with
  | none hnone =>
    rw [List.nil_append]
    unfold preRelease
    split
    · rename_i tail
      -- A hyphen that no pre-release part follows is left where it is.
      have hstops : Stops isPreReleaseChar tail := by
        intro c hc
        obtain ⟨others, rfl⟩ := List.head?_eq_some_iff.mp hc
        exact hnone c others rfl
      have hempty : tail.takeWhile isPreReleaseChar = [] :=
        takeWhile_run (List.forall_mem_nil _) hstops
      rw [hempty]
    · rfl
  | part hne hpart hrest =>
    rw [List.cons_append, preRelease, takeWhile_run hpart hrest, dropWhile_run hpart hrest]
    split
    · exact absurd rfl hne
    · rfl

theorem preRelease_eq_iff {cs suffix rest : List Char} :
    preRelease cs = (suffix, rest) ↔ cs = suffix ++ rest ∧ Suffix suffix rest := by
  refine ⟨suffix_of_preRelease, ?_⟩
  intro ⟨he, hsuffix⟩
  subst he
  exact preRelease_of_suffix hsuffix

/-- The front of a text is read as a token exactly if it is one, and cannot be made longer. -/
theorem head?_eq_some_iff {cs token rest : List Char} :
    head? cs = some (token, rest) ↔ cs = token ++ rest ∧ Token token rest := by
  constructor
  · intro h
    obtain ⟨⟨major, _⟩, hmajor, hrest⟩ := Option.bind_eq_some_iff.mp h
    obtain ⟨⟨_, _⟩, hminor, hrest⟩ := Option.bind_eq_some_iff.mp hrest
    obtain ⟨⟨_, cs'⟩, hpatch, hread⟩ := Option.bind_eq_some_iff.mp hrest
    obtain ⟨rfl, rmajor, _⟩ := digits?_eq_some_iff.mp hmajor
    obtain ⟨minor, rfl, rfl, rminor, _⟩ := pointDigits?_eq_some_iff.mp hminor
    obtain ⟨patch, rfl, rfl, rpatch, hstops⟩ := pointDigits?_eq_some_iff.mp hpatch
    cases hread
    obtain ⟨htail, hsuffix⟩ := preRelease_eq_iff.mp (rfl : preRelease cs' = _)
    rw [htail] at hstops
    constructor
    · nth_rewrite 1 [htail]
      simp
    · have htoken := Token.of rmajor rminor rpatch hsuffix hstops
      simpa using htoken
  · intro ⟨he, htoken⟩
    subst he
    cases htoken with
    | @of major minor patch suffix _ rmajor rminor rpatch hsuffix hstops =>
      have hpoint : ∀ cs, Stops isDecimalDigit ('.' :: cs) :=
        fun cs => stops_cons_iff.mpr (by decide)
      have hmajor := digits?_eq_some_iff.mpr
        ⟨rfl, rmajor, hpoint (minor ++ '.' :: (patch ++ (suffix ++ rest)))⟩
      have hminor := pointDigits?_eq_some_iff.mpr
        ⟨minor, rfl, rfl, rminor, hpoint (patch ++ (suffix ++ rest))⟩
      have hpatch := pointDigits?_eq_some_iff.mpr ⟨patch, rfl, rfl, rpatch, hstops⟩
      have htail := preRelease_eq_iff.mpr ⟨rfl, hsuffix⟩
      unfold head?
      simp only [List.append_assoc, List.cons_append, hmajor, hminor, hpatch, htail, bind,
        Option.bind, pure]

namespace Token

variable {token rest : List Char}

theorem ne_nil (h : Token token rest) : token ≠ [] := by
  cases h with
  | of rmajor => exact List.append_ne_nil_of_left_ne_nil rmajor.1 _

/-- A token is made of digits and of what pre-release parts are made of. -/
theorem char (h : Token token rest) {c : Char} (hc : c ∈ token) :
    isDecimalDigit c = true ∨ isPreReleaseChar c = true := by
  have hpoint : isPreReleaseChar '.' = true := by decide
  cases h with
  | of rmajor rminor rpatch hsuffix =>
    simp only [List.mem_append, List.mem_cons] at hc
    rcases hc with hc | rfl | hc | rfl | hc | hc
    · exact Or.inl (rmajor.2 c hc)
    · exact Or.inr hpoint
    · exact Or.inl (rminor.2 c hc)
    · exact Or.inr hpoint
    · exact Or.inl (rpatch.2 c hc)
    · cases hsuffix with
      | none => cases hc
      | part _ hpart =>
        rcases List.mem_cons.mp hc with rfl | hc
        · exact Or.inr (by decide)
        · exact Or.inr (hpart c hc)

theorem cons (h : Token token rest) {c : Char} (hc : isDecimalDigit c = true) :
    Token (c :: token) rest := by
  cases h with
  | of rmajor rminor rpatch hsuffix hstops =>
    rw [← List.cons_append]
    refine .of ⟨List.cons_ne_nil _ _, ?_⟩ rminor rpatch hsuffix hstops
    exact List.forall_mem_cons.mpr ⟨hc, rmajor.2⟩

theorem stops_isDigit (h : Token token rest) : Stops Char.isDigit rest := by
  intro c hc
  by_contra hdigit
  rw [Bool.not_eq_false] at hdigit
  cases h with
  | of _ _ _ hsuffix hstops =>
    cases hsuffix with
    | none =>
      have hnot := hstops c hc
      rw [isDecimalDigit_of_isDigit hdigit] at hnot
      cases hnot
    | part _ _ hrest =>
      have hnot := hrest c hc
      rw [isPreReleaseChar_of_isDigit hdigit] at hnot
      cases hnot

end Token

/-! ## Scanning -/

/-- The scan of a text: its tokens, from left to right. -/
inductive Scanned : List Char → List (List Char) → Prop where
  | done : Scanned [] []
  | passed {c : Char} {cs : List Char} {tokens : List (List Char)} :
      (∀ token rest, c :: cs = token ++ rest → ¬ Token token rest) → Scanned cs tokens →
      Scanned (c :: cs) tokens
  | taken {token rest : List Char} {tokens : List (List Char)} :
      Token token rest → Scanned rest tokens → Scanned (token ++ rest) (token :: tokens)

theorem scanned_allWithin {fuel : Nat} {cs : List Char} (h : cs.length ≤ fuel) :
    Scanned cs (allWithin fuel cs) := by
  induction fuel generalizing cs with
  | zero =>
    obtain rfl := List.eq_nil_of_length_eq_zero (Nat.le_zero.mp h)
    exact .done
  | succ fuel ih =>
    cases cs with
    | nil => exact .done
    | cons c cs =>
      have hlen : cs.length ≤ fuel := Nat.le_of_succ_le_succ h
      unfold allWithin
      split
      · rename_i token rest hhead
        obtain ⟨heq, htoken⟩ := head?_eq_some_iff.mp hhead
        have hpos : 0 < token.length := List.length_pos_of_ne_nil htoken.ne_nil
        have hsum : cs.length + 1 = token.length + rest.length := by
          simpa using congrArg List.length heq
        rw [heq]
        exact .taken htoken (ih (by omega))
      · rename_i hhead
        refine .passed (fun token rest heq htoken => ?_) (ih hlen)
        rw [head?_eq_some_iff.mpr ⟨heq, htoken⟩] at hhead
        cases hhead

theorem scanned_all (text : String) : ∃ tokens, Scanned text.toList tokens ∧
    all text = tokens.map String.ofList :=
  ⟨_, scanned_allWithin (Nat.le_of_eq String.length_toList), rfl⟩

/-- A text is scanned in one way only. -/
theorem Scanned.unique {cs : List Char} {tokens tokens' : List (List Char)}
    (h : Scanned cs tokens) (h' : Scanned cs tokens') : tokens = tokens' := by
  induction h generalizing tokens' with
  | done =>
    generalize hcs : ([] : List Char) = cs at h'
    cases h' with
    | done => rfl
    | passed => cases hcs
    | taken htoken => exact absurd (List.append_eq_nil_iff.mp hcs.symm).1 htoken.ne_nil
  | @passed c cs tokens hnone _ ih =>
    generalize hcs : c :: cs = whole at h'
    cases h' with
    | done => cases hcs
    | passed _ hrest =>
      cases hcs
      exact ih hrest
    | taken htoken => exact absurd htoken (hnone _ _ hcs)
  | @taken token rest tokens htoken _ ih =>
    generalize hcs : token ++ rest = whole at h'
    cases h' with
    | done => exact absurd (List.append_eq_nil_iff.mp hcs).1 htoken.ne_nil
    | passed hnone => exact absurd htoken (hnone _ _ hcs.symm)
    | taken htoken' hrest =>
      -- Both are what is read at the front of the text.
      have hhead := head?_eq_some_iff.mpr ⟨rfl, htoken⟩
      rw [hcs, head?_eq_some_iff.mpr ⟨rfl, htoken'⟩] at hhead
      cases hhead
      rw [ih hrest]

/-! ## Texts in parts -/

/-- A character that stands in no token. -/
def Parts (x : Char) : Prop := isDecimalDigit x = false ∧ isPreReleaseChar x = false

section Parts

variable {x : Char} (hx : Parts x)
include hx

theorem Parts.not_mem {token rest : List Char} (h : Token token rest) : x ∉ token := by
  intro hmem
  rcases h.char hmem with hdigit | hchar
  · rw [hx.1] at hdigit
    cases hdigit
  · rw [hx.2] at hchar
    cases hchar

/-- It does not matter to a token what stands behind such a character. -/
theorem Parts.token_append_iff {token rest behind : List Char} :
    Token token (rest ++ x :: behind) ↔ Token token rest := by
  have hsuffix : ∀ {suffix}, Suffix suffix (rest ++ x :: behind) ↔ Suffix suffix rest := by
    intro suffix
    constructor
    · intro h
      cases h with
      | none hnone => exact .none fun c tail heq => hnone c _ (by rw [heq]; rfl)
      | part hne hpart hrest => exact .part hne hpart ((stops_append_iff hx.2).mp hrest)
    · intro h
      cases h with
      | none hnone =>
        refine .none fun c tail heq => ?_
        rcases rest with _ | ⟨d, _ | ⟨e, rest⟩⟩
        · cases heq
          exact absurd hx.2 (by decide)
        · cases heq
          exact hx.2
        · cases heq
          exact hnone _ _ rfl
      | part hne hpart hrest => exact .part hne hpart ((stops_append_iff hx.2).mpr hrest)
  constructor
  · intro h
    cases h with
    | of rmajor rminor rpatch hs hstops =>
      rw [← List.append_assoc, stops_append_iff hx.1] at hstops
      exact .of rmajor rminor rpatch (hsuffix.mp hs) hstops
  · intro h
    cases h with
    | of rmajor rminor rpatch hs hstops =>
      refine .of rmajor rminor rpatch (hsuffix.mpr hs) ?_
      rw [← List.append_assoc, stops_append_iff hx.1]
      exact hstops

/-- The two sides of such a character are scanned apart. -/
theorem Scanned.append {front behind : List Char} {tokens tokens' : List (List Char)}
    (h : Scanned front tokens) (h' : Scanned behind tokens') :
    Scanned (front ++ x :: behind) (tokens ++ tokens') := by
  induction h with
  | done =>
    refine .passed (fun token rest heq htoken => ?_) h'
    cases token with
    | nil => exact htoken.ne_nil rfl
    | cons c tail =>
      cases heq
      exact hx.not_mem htoken List.mem_cons_self
  | @passed c cs tokens hnone _ ih =>
    refine .passed (fun token rest heq htoken => ?_) ih
    -- A token that starts in front ends there, so that it would have been taken.
    have hmeet : (c :: cs) ++ x :: behind = token ++ rest := heq
    rcases List.append_eq_append_iff.mp hmeet with ⟨beyond, rfl, hbeyond⟩ | ⟨left, hleft, rfl⟩
    · cases beyond with
      | nil =>
        obtain rfl : x :: behind = rest := hbeyond
        rw [List.append_nil] at htoken
        exact hnone (c :: cs) [] (List.append_nil _).symm
          (hx.token_append_iff.mp (show Token (c :: cs) ([] ++ x :: behind) from htoken))
      | cons d beyond =>
        cases hbeyond
        exact hx.not_mem htoken (by simp)
    · exact hnone token left hleft (hx.token_append_iff.mp htoken)
  | taken htoken _ ih =>
    rw [List.append_assoc, List.cons_append]
    exact .taken (hx.token_append_iff.mpr htoken) ih

end Parts

theorem Scanned.of_whole {front token behind : List Char} (htoken : Token token [])
    (hfront : ∀ x, front.getLast? = some x → Parts x)
    (hbehind : ∀ x, behind.head? = some x → Parts x) :
    ∃ tokens tokens', Scanned (front ++ token ++ behind) (tokens ++ token :: tokens') := by
  have hlast : ∃ tokens', Scanned (token ++ behind) (token :: tokens') := by
    have hlone : Scanned token [token] := by simpa using Scanned.taken htoken .done
    cases behind with
    | nil => exact ⟨[], by simpa using hlone⟩
    | cons y behind => exact ⟨_, .append (hbehind y rfl) hlone (scanned_allWithin (Nat.le_refl _))⟩
  obtain ⟨tokens', hlast⟩ := hlast
  rcases List.eq_nil_or_concat front with rfl | ⟨front, x, rfl⟩
  · exact ⟨[], tokens', hlast⟩
  · refine ⟨allWithin front.length front, tokens', ?_⟩
    have hx : Parts x := hfront x (by simp)
    simpa using Scanned.append hx (scanned_allWithin (Nat.le_refl _)) hlast

/-! ## What stands around a token -/

/-- No token that starts with a digit of ASCII starts behind a digit. -/
def Clear (before cs : List Char) : Prop :=
  ∀ token rest, cs = token ++ rest → Token token rest → ∀ d c, before.getLast? = some d →
    token.head? = some c → isDecimalDigit d = true → c.isDigit = false

theorem Clear.passed {before cs : List Char} {c : Char}
    (h : ∀ token rest, c :: cs = token ++ rest → ¬ Token token rest) :
    Clear (before ++ [c]) cs := by
  intro token rest heq htoken d first hd _ hdigit
  rw [List.getLast?_concat] at hd
  cases hd
  exact absurd (htoken.cons hdigit) (h _ rest (by rw [heq]; rfl))

theorem Clear.taken {before token rest : List Char} (h : Token token rest) :
    Clear (before ++ token) rest := by
  intro token' rest' heq htoken' d c _ hc _
  obtain ⟨tail, rfl⟩ := List.head?_eq_some_iff.mp hc
  exact h.stops_isDigit c (by rw [heq]; rfl)

/-- A token of a scan occurs in the text, and cannot be made longer there: not to the right, and, if
it starts with a digit of ASCII, not to the left. -/
theorem Scanned.occurs {cs : List Char} {tokens : List (List Char)} (h : Scanned cs tokens)
    {token : List Char} (htoken : token ∈ tokens)
    (hfirst : ∀ c, token.head? = some c → c.isDigit = true) :
    ∃ before behind, cs = before ++ token ++ behind ∧ Token token behind ∧
      ∀ d, before.getLast? = some d → isDecimalDigit d = false := by
  -- The induction is on the scan; what has been scanned goes along in `passed`.
  suffices hgeneral : ∀ passed, Clear passed cs → ∃ before behind,
      passed ++ cs = before ++ token ++ behind ∧ Token token behind ∧
        ∀ d, before.getLast? = some d → isDecimalDigit d = false by
    exact hgeneral [] fun _ _ _ _ _ _ hd => by cases hd
  induction h with
  | done => cases htoken
  | passed hnone _ ih =>
    intro passed _
    obtain ⟨before, behind, heq, hrest⟩ := ih htoken (passed ++ [_]) (Clear.passed hnone)
    exact ⟨before, behind, by simpa using heq, hrest⟩
  | @taken first rest tokens htaken _ ih =>
    intro passed hclear
    rcases List.mem_cons.mp htoken with rfl | hlater
    · refine ⟨passed, rest, (List.append_assoc _ _ _).symm, htaken, fun d hd => ?_⟩
      by_contra hdigit
      rw [Bool.not_eq_false] at hdigit
      obtain ⟨c, tail, rfl⟩ := List.exists_cons_of_ne_nil htaken.ne_nil
      have hnot := hclear _ rest rfl htaken d c hd rfl hdigit
      rw [hfirst c rfl] at hnot
      cases hnot
    · obtain ⟨before, behind, heq, hrest⟩ := ih hlater (passed ++ first) (Clear.taken htaken)
      exact ⟨before, behind, by simpa using heq, hrest⟩

end ToolBootstrap.VersionToken
