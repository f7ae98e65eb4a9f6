import ToolBootstrap.Config.Issue
import ToolBootstrap.Proofs.Narration
import ToolBootstrap.Proofs.VersionText
import ToolBootstrap.Proofs.VersionTokens

/- Versions that a report mentions.

   A version without build metadata is a token, and one with build metadata is none, whatever stands
   behind it (`token_text_iff`). So a report mentions a version of the first kind wherever it stands
   between white space, and one of the second kind nowhere (`mentions_alone`); and what it mentions
   stands in it neither as a part of a longer number nor of a longer pre-release (`mentions_whole`).
   -/

namespace ToolBootstrap

namespace VersionToken

open SemVer

/-! ## Versions as tokens -/

theorem isRun_toDigits (n : Nat) : IsRun (Nat.toDigits 10 n) :=
  ⟨Nat.toDigits_ne_nil, fun _ hc => isDecimalDigit_of_isDigit (isDigit_of_toDigits hc)⟩

theorem parts_plus : Parts '+' := ⟨by decide, by decide⟩

theorem isPreReleaseChar_iff_isInside (c : Char) :
    isPreReleaseChar c = true ↔ isInside c = true := by
  simp only [isPreReleaseChar, isInside, isSegmentChar, Bool.or_eq_true]
  tauto

theorem stops_behind_digits {mark : Char} (hmark : isDecimalDigit mark = false)
    (parts : List (List Char)) : Stops isDecimalDigit (behind mark parts) := by
  simpa using stops_behind hmark parts stops_nil

theorem suffix_stops {suffix rest : List Char} (h : Suffix suffix rest) :
    Stops isDecimalDigit suffix := by
  cases h with
  | none => exact stops_nil
  | part => exact stops_cons_iff.mpr (by decide)

/-- A version is a token exactly if it has no build metadata, and its pre-release part, or else its
last number, ends where the version does. -/
theorem token_text_iff {v : Version} {rest : List Char} :
    Token v.text rest ↔ v.build = [] ∧ Suffix (behind '-' v.preRelease) rest ∧
      Stops isDecimalDigit (behind '-' v.preRelease ++ rest) := by
  have hpoint : ∀ cs, Stops isDecimalDigit ('.' :: cs) := fun cs => stops_cons_iff.mpr (by decide)
  constructor
  · intro h
    -- The plus of build metadata stands in no token.
    have hbuild : v.build = [] := by
      by_contra hne
      refine parts_plus.not_mem h ?_
      simp [Version.text, behind_of_ne_nil hne]
    refine ⟨hbuild, ?_⟩
    have htext : v.text = Nat.toDigits 10 v.major ++ '.' :: (Nat.toDigits 10 v.minor ++
        '.' :: (Nat.toDigits 10 v.patch ++ behind '-' v.preRelease)) := by
      rw [Version.text, hbuild, behind, List.append_nil]
    generalize v.text = token at h htext
    cases h with
    | of rmajor rminor rpatch hsuffix hstops =>
      -- Both sides are split at the same points, and what is left of them is the suffix.
      obtain ⟨rfl, hminor⟩ :=
        run_unique rmajor.2 (hpoint _) (isRun_toDigits v.major).2 (hpoint _) htext
      obtain ⟨rfl, hpatch⟩ := run_unique rminor.2 (hpoint _) (isRun_toDigits v.minor).2 (hpoint _)
        (List.cons.inj hminor).2
      obtain ⟨rfl, rfl⟩ := run_unique rpatch.2 (suffix_stops hsuffix) (isRun_toDigits v.patch).2
        (stops_behind_digits (by decide) v.preRelease) (List.cons.inj hpatch).2
      exact ⟨hsuffix, hstops⟩
  · rintro ⟨hbuild, hsuffix, hstops⟩
    have htoken := Token.of (isRun_toDigits v.major) (isRun_toDigits v.minor)
      (isRun_toDigits v.patch) hsuffix hstops
    rwa [Version.text, hbuild, behind, List.append_nil]

theorem token_text {v : Version} (hlegal : v.Legal) (hbuild : v.build = []) : Token v.text [] := by
  refine token_text_iff.mpr ⟨hbuild, ?_, ?_⟩
  · by_cases hne : v.preRelease = []
    · rw [hne]
      exact .none fun c tail h => by cases h
    · rw [behind_of_ne_nil hne]
      refine .part (intercalate_ne_nil hlegal.preRelease hne) (fun c hc => ?_) stops_nil
      exact (isPreReleaseChar_iff_isInside c).mpr
        (isInside_of_mem_intercalate hlegal.preRelease hc)
  · rw [List.append_nil]
    exact stops_behind_digits (by decide) _

theorem head_text (v : Version) : ∀ c, v.text.head? = some c → c.isDigit = true := by
  intro c hc
  rw [Version.text, List.head?_append, List.head?_eq_some_head Nat.toDigits_ne_nil] at hc
  cases hc
  exact isDigit_of_toDigits (List.head_mem _)

/-! ## White space -/

theorem exists_blankRange {c : Char} (h : isBlank c = true) (hwide : 0x80 ≤ c.toNat) :
    ∃ blanks ∈ (0x85, 0x85) :: (0xA0, 0xA0) :: blankRanges,
      blanks.1 ≤ c.toNat ∧ c.toNat ≤ blanks.2 := by
  simp only [isBlank, Bool.or_eq_true, Bool.and_eq_true, decide_eq_true_eq, beq_iff_eq,
    List.any_eq_true] at h
  rcases h with (((h | h) | h) | h) | ⟨blanks, hmem, hblanks⟩
  · omega
  · omega
  · exact ⟨(0x85, 0x85), by simp, h.ge, h.le⟩
  · exact ⟨(0xA0, 0xA0), by simp, h.ge, h.le⟩
  · exact ⟨blanks, by simp [hmem], hblanks⟩

theorem isDecimalDigit_of_isBlank {c : Char} (h : isBlank c = true) : isDecimalDigit c = false := by
  by_contra hdigit
  simp only [isDecimalDigit, inRanges, Bool.not_eq_false, Bool.or_eq_true, Bool.and_eq_true,
    decide_eq_true_eq, List.any_eq_true] at hdigit
  rcases hdigit with hdigit | ⟨hwide, digits, hdigits, hlow, hhigh⟩
  · obtain ⟨hlow, hhigh⟩ := isDigit_range hdigit
    rw [isBlank_of_printed (by omega) (by omega)] at h
    cases h
  · -- No range of digits meets a range of white space.
    have hapart : ∀ digits ∈ decimalDigitRanges,
        ∀ blanks ∈ (0x85, 0x85) :: (0xA0, 0xA0) :: blankRanges,
          digits.2 < blanks.1 ∨ blanks.2 < digits.1 := by decide
    obtain ⟨blanks, hblanks, hfrom, hto⟩ := exists_blankRange h hwide
    have := hapart digits hdigits blanks hblanks
    omega

theorem parts_of_isBlank {x : Char} (h : isBlank x = true) : Parts x := by
  refine ⟨isDecimalDigit_of_isBlank h, ?_⟩
  by_contra hchar
  rw [Bool.not_eq_false, isPreReleaseChar_iff_isInside, isInside, Bool.or_eq_true, beq_iff_eq]
    at hchar
  rcases hchar with hsegment | rfl
  · obtain ⟨hlow, hhigh⟩ := isSegmentChar_range hsegment
    rw [isBlank_of_printed (by omega) (by omega)] at h
    cases h
  · exact absurd h (by decide)

end VersionToken

namespace Bootstrap

open VersionToken

variable {report version : String} {v : SemVer.Version}

/-! ## Mentions -/

theorem mentionsVersion_iff : mentionsVersion report version = true ↔
    ∃ tokens, Scanned report.toList tokens ∧ version.toList ∈ tokens := by
  obtain ⟨tokens, hscanned, hall⟩ := scanned_all report
  rw [mentionsVersion, hall, List.contains_iff_mem, List.mem_map]
  constructor
  · intro ⟨token, htoken, he⟩
    subst he
    exact ⟨tokens, hscanned, by rwa [String.toList_ofList]⟩
  · intro ⟨tokens', hscanned', hmem⟩
    obtain rfl := hscanned.unique hscanned'
    exact ⟨_, hmem, String.ofList_toList⟩

theorem exists_token_of_mentions (hv : SemVer.parse version = .ok v)
    (h : mentionsVersion report version = true) :
    ∃ before behind, report.toList = before ++ version.toList ++ behind ∧ Token v.text behind ∧
      ∀ d, before.getLast? = some d → isDecimalDigit d = false := by
  obtain ⟨tokens, hscanned, hmem⟩ := mentionsVersion_iff.mp h
  rw [(SemVer.parse_ok_iff.mp hv).1] at hmem ⊢
  exact hscanned.occurs hmem (head_text v)

/-! ## Versions that stand alone -/

/-- A word stands alone in a text: next to it on either side is white space, or nothing. -/
def StandsAlone (word text : List Char) : Prop :=
  ∃ before behind, text = before ++ word ++ behind ∧
    (∀ c, before.getLast? = some c → isBlank c = true) ∧
    ∀ c, behind.head? = some c → isBlank c = true

theorem mentionsVersion_of_alone (hv : SemVer.parse version = .ok v) (hbuild : v.build = [])
    (h : StandsAlone version.toList report.toList) : mentionsVersion report version = true := by
  obtain ⟨before, behind, htext, hbefore, hbehind⟩ := h
  obtain ⟨hversion, hlegal⟩ := SemVer.parse_ok_iff.mp hv
  have htoken : Token version.toList [] := hversion ▸ token_text hlegal hbuild
  obtain ⟨tokens, tokens', hscanned⟩ := Scanned.of_whole htoken
    (fun c hc => parts_of_isBlank (hbefore c hc)) fun c hc => parts_of_isBlank (hbehind c hc)
  rw [← htext] at hscanned
  exact mentionsVersion_iff.mpr ⟨_, hscanned, by simp⟩

theorem not_mentionsVersion_of_build (hv : SemVer.parse version = .ok v) (hbuild : v.build ≠ []) :
    mentionsVersion report version = false := by
  by_contra h
  obtain ⟨before, behind, _, htoken, _⟩ :=
    exists_token_of_mentions hv (Bool.not_eq_false _ ▸ h)
  exact hbuild (token_text_iff.mp htoken).1

/-- Pinned versions in reports. A version without build metadata is mentioned wherever it stands
alone, and one with build metadata by no report. So an installation whose tool reports its version,
standing alone, tells nothing but its start and its end in the first case, and warns in the second.
-/
theorem mentions_alone (hv : SemVer.parse version = .ok v) :
    (v.build = [] → ∀ report : String, StandsAlone version.toList report.toList →
      mentionsVersion report version = true) ∧
    (v.build ≠ [] → ∀ report : String, mentionsVersion report version = false) ∧
    ∀ (σ : Type) (runner : Runner σ) (path : SearchPath) (tool : Tool) (s : Session σ)
      (report : String), tool.version = version →
      ((installTool runner path tool).run s).1.outcome = .installed report →
      StandsAlone version.toList report.toList →
      ((installTool runner path tool).run s).2.console = s.console ++
        (if v.build = [] then [announced tool, confirmed tool report]
          else [announced tool, unexpected tool report, confirmed tool report]).map .record := by
  refine ⟨fun hbuild report h => mentionsVersion_of_alone hv hbuild h,
    fun hbuild report => not_mentionsVersion_of_build hv hbuild, ?_⟩
  intro σ runner path tool s report htool houtcome halone
  rw [installTool_console_installed houtcome]
  subst htool
  by_cases hbuild : v.build = []
  · rw [if_pos hbuild, told_mentioned (mentionsVersion_of_alone hv hbuild halone)]
  · rw [if_neg hbuild, told_unmentioned (not_mentionsVersion_of_build hv hbuild)]

/-- Answers by which a tool reports a text. -/
def reporting (text : String) : Runner Unit := Runner.scripted [("a --version", .ok ⟨text, ""⟩)]

/-- A pre-release between other versions, of which one starts alike, is reported without a warning.
-/
theorem mentions_alone_pre_release :
    let tool : Tool := ⟨"a", "2.11.0-rc.1", none⟩
    let report := "a 12.11.0 2.11.0-rc.11\t2.11.0-rc.1"
    let ran := (installTool (reporting report) .empty tool).run (Session.start (.ofEntries []) ())
    SemVer.parse tool.version = .ok ⟨2, 11, 0, [['r', 'c'], ['1']], []⟩ ∧
      StandsAlone tool.version.toList report.toList ∧ mentionsVersion report tool.version = true ∧
      ran.2.console = [announced tool, confirmed tool report].map .record := by
  intro tool report
  dsimp only
  have hv : SemVer.parse tool.version = .ok ⟨2, 11, 0, [['r', 'c'], ['1']], []⟩ := by
    decide +kernel
  have halone : StandsAlone tool.version.toList report.toList := by
    refine ⟨"a 12.11.0 2.11.0-rc.11\t".toList, [], by decide +kernel, fun c hc => ?_, nofun⟩
    have hlast : "a 12.11.0 2.11.0-rc.11\t".toList.getLast? = some '\t' := by decide +kernel
    obtain rfl : '\t' = c := Option.some.inj (hlast.symm.trans hc)
    decide
  have houtcome : ((installTool (reporting report) .empty tool).run
      (Session.start (.ofEntries []) ())).1.outcome = .installed report := by decide +kernel
  obtain ⟨hmentioned, _, hconsole⟩ := mentions_alone hv
  have htold := hconsole Unit (reporting report) .empty tool
    (Session.start (.ofEntries []) ()) report rfl
    houtcome halone
  exact ⟨hv, halone, hmentioned rfl report halone, htold⟩

/-- A version with build metadata that a tool reports, and nothing else, is not taken to be
mentioned. -/
theorem reported_build_unmentioned :
    let tool : Tool := ⟨"a", "1.0.0+b", none⟩
    let ran := (installTool (reporting tool.version) .empty tool).run
      (Session.start (.ofEntries []) ())
    Config.versionProblems tool.version = [] ∧
      StandsAlone tool.version.toList tool.version.toList ∧
      mentionsVersion tool.version tool.version = false ∧
      ran.1.outcome = .installed tool.version ∧
      .record (unexpected tool tool.version) ∈ ran.2.console := by
  intro tool ran
  have halone : StandsAlone tool.version.toList tool.version.toList :=
    ⟨[], [], by decide +kernel, nofun, nofun⟩
  exact ⟨by decide +kernel, halone, by decide +kernel, by decide +kernel, by decide +kernel⟩

/-! ## Versions that stand whole -/

/-- A version stands whole between two texts: it is not a part of a longer number, and no
pre-release part, or more of its own, follows it. -/
structure StandsWhole (v : SemVer.Version) (before behind : List Char) : Prop where
  digit_before : ∀ c, before.getLast? = some c → c.isDigit = false
  digit_behind : ∀ c, behind.head? = some c → c.isDigit = false
  no_part : v.preRelease = [] → ∀ c tail, behind = '-' :: c :: tail →
    ¬ (c.isAlphanum = true ∨ c = '.' ∨ c = '-')
  no_more : v.preRelease ≠ [] → ∀ c, behind.head? = some c →
    ¬ (c.isAlphanum = true ∨ c = '.' ∨ c = '-')

theorem standsWhole_of_token {before behind : List Char} (h : Token v.text behind)
    (hbefore : ∀ d, before.getLast? = some d → isDecimalDigit d = false) :
    StandsWhole v before behind := by
  obtain ⟨_, hsuffix, _⟩ := token_text_iff.mp h
  refine ⟨fun c hc => ?_, h.stops_isDigit, fun hnone c tail heq => ?_, fun hsome c hc => ?_⟩
  · by_contra hdigit
    have hnot := hbefore c hc
    rw [isDecimalDigit_of_isDigit (Bool.not_eq_false _ ▸ hdigit)] at hnot
    cases hnot
  · rw [hnone] at hsuffix
    cases hsuffix with
    | none hpart => rw [← isPreReleaseChar_iff, hpart c tail heq]; exact Bool.false_ne_true
  · rw [SemVer.behind_of_ne_nil hsome] at hsuffix
    cases hsuffix with
    | part _ _ hrest => rw [← isPreReleaseChar_iff, hrest c hc]; exact Bool.false_ne_true

/-- What a report mentions stands whole in it somewhere. So a longer number or a pre-release of the
pinned version does not keep an installation from its warning. -/
theorem mentions_whole (hv : SemVer.parse version = .ok v) :
    (∀ report : String, mentionsVersion report version = true →
      ∃ before behind, report.toList = before ++ version.toList ++ behind ∧
        StandsWhole v before behind) ∧
    ∀ (σ : Type) (runner : Runner σ) (path : SearchPath) (tool : Tool) (s : Session σ)
      (report : String), tool.version = version →
      ((installTool runner path tool).run s).1.outcome = .installed report →
      (∀ before behind, report.toList = before ++ version.toList ++ behind →
        ¬ StandsWhole v before behind) →
      ((installTool runner path tool).run s).2.console = s.console ++
        [announced tool, unexpected tool report, confirmed tool report].map .record := by
  have hwhole : ∀ report : String, mentionsVersion report version = true →
      ∃ before behind, report.toList = before ++ version.toList ++ behind ∧
        StandsWhole v before behind := by
    intro report h
    obtain ⟨before, behind, htext, htoken, hbefore⟩ := exists_token_of_mentions hv h
    exact ⟨before, behind, htext, standsWhole_of_token htoken hbefore⟩
  refine ⟨hwhole, ?_⟩
  intro σ runner path tool s report htool houtcome hnone
  subst htool
  have hmissing : mentionsVersion report tool.version = false := by
    by_contra h
    obtain ⟨before, behind, htext, hstands⟩ := hwhole report (Bool.not_eq_false _ ▸ h)
    exact hnone before behind htext hstands
  rw [installTool_console_installed houtcome, told_unmentioned hmissing]

/-- A version between a longer number and one of its pre-releases is mentioned, and the end of a
longer number does not keep the warning back. -/
theorem mentions_whole_between :
    let report := "2.11.01 v2.11.0. 2.11.0-rc.1"
    let tool : Tool := ⟨"a", "2.11.0", none⟩
    let ran := (installTool (reporting "12.11.0") .empty tool).run
      (Session.start (.ofEntries []) ())
    SemVer.parse "2.11.0" = .ok ⟨2, 11, 0, [], []⟩ ∧ mentionsVersion report "2.11.0" = true ∧
      (∃ before behind, report.toList = before ++ "2.11.0".toList ++ behind ∧
        StandsWhole ⟨2, 11, 0, [], []⟩ before behind) ∧
      ran.2.console = [announced tool, unexpected tool "12.11.0", confirmed tool "12.11.0"].map
        .record := by
  intro report tool
  dsimp only
  have hv : SemVer.parse "2.11.0" = .ok ⟨2, 11, 0, [], []⟩ := by decide +kernel
  have hmentioned : mentionsVersion report "2.11.0" = true := by decide +kernel
  have houtcome : ((installTool (reporting "12.11.0") .empty tool).run
      (Session.start (.ofEntries []) ())).1.outcome = .installed "12.11.0" := by decide +kernel
  obtain ⟨hwhole, hconsole⟩ := mentions_whole hv
  refine ⟨hv, hmentioned, hwhole report hmentioned, ?_⟩
  apply hconsole Unit (reporting "12.11.0") .empty tool
    (Session.start (.ofEntries []) ()) "12.11.0" rfl
    houtcome
  -- The version can only start at the second place, behind a digit.
  intro before behind htext hstands
  have hlength := congrArg List.length htext
  match before, behind with
  | [], _ => cases htext
  | [c], [] =>
    cases htext
    exact absurd (hstands.digit_before '1' rfl) (by decide)
  | _ :: _ :: _, _ => simp at hlength; omega
  | [_], _ :: _ => simp at hlength

example : mentionsVersion "12.11.0 2.11.01 2.11.0-rc.1" "2.11.0" = false := by decide +kernel

end Bootstrap

end ToolBootstrap
