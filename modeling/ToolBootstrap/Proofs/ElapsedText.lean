import ToolBootstrap.Elapsed
import ToolBootstrap.Proofs.Rounding
import ToolBootstrap.Proofs.Text

/- The short form of a span of time, read back.

   A reading is a number of units: microseconds, milliseconds, hundredths of a second, or minutes
   and seconds. Every short form is the text of a reading that differs from the span by less than a
   unit (`text_reads_back`). All but the hundredths are cut, and so stay below the next unit. The
   hundredths are rounded from a binary number of seconds, whose own error is too small to be seen
   in nanoseconds (`hundredths_near`): they are the nearest ones, and just below a minute these are
   sixty seconds. -/

namespace ToolBootstrap.Elapsed

/-! ## Readings -/

/-- What a short form says. -/
inductive Reading where
  | microseconds (count : Nat)
  | milliseconds (count : Nat)
  | hundredths (count : Nat)
  | minutes (count seconds : Nat)
  deriving DecidableEq, Repr

namespace Reading

def text : Reading → String
  | .microseconds n => toString n ++ "µs"
  | .milliseconds n => toString n ++ "ms"
  | .hundredths n => toString (n / 100) ++ "." ++
      String.ofList (Decimal.Binary.paddedDigits 2 (n % 100)) ++ "s"
  | .minutes m s =>
    if s = 0 then toString m ++ "m" else toString m ++ "m" ++ " " ++ toString s ++ "s"

/-- The number that decimal digits write behind those of another number. -/
def number (digits : List Char) (front : Nat) : Nat := Nat.ofDigitChars 10 digits front

/-- The reading of a text, if it is a short form. -/
def read? (cs : List Char) : Option Reading :=
  let n := number (cs.takeWhile Char.isDigit) 0
  match cs.dropWhile Char.isDigit with
  | ['µ', 's'] => some (.microseconds n)
  | ['m', 's'] => some (.milliseconds n)
  | ['.', tens, ones, 's'] => some (.hundredths (number [tens, ones] n))
  | ['m'] => some (.minutes n 0)
  | 'm' :: ' ' :: rest =>
    if rest.dropWhile Char.isDigit = ['s'] then
      some (.minutes n (number (rest.takeWhile Char.isDigit) 0))
    else none
  | _ => none

/-- The unit of the last place that is shown, in nanoseconds. -/
def unit : Reading → Nat
  | .microseconds _ => 1000
  | .milliseconds _ => 1000000
  | .hundredths _ => 10000000
  | .minutes _ _ => 1000000000

/-- The span that a reading stands for, in nanoseconds. -/
def nanos : Reading → Nat
  | .microseconds n => n * 1000
  | .milliseconds n => n * 1000000
  | .hundredths n => n * 10000000
  | .minutes m s => (60 * m + s) * 1000000000

/-- A reading stays within its units: it is less than one of the next unit, and unless there is no
smaller one it is at least one of its own. -/
def Fits : Reading → Prop
  | .microseconds n => n ≤ 999
  | .milliseconds n => 1 ≤ n ∧ n ≤ 999
  | .hundredths n => 100 ≤ n ∧ n < 6000
  | .minutes m s => 1 ≤ m ∧ s ≤ 59

instance : DecidablePred Fits
  | .microseconds n => inferInstanceAs (Decidable (n ≤ 999))
  | .milliseconds n => inferInstanceAs (Decidable (1 ≤ n ∧ n ≤ 999))
  | .hundredths n => inferInstanceAs (Decidable (100 ≤ n ∧ n < 6000))
  | .minutes m s => inferInstanceAs (Decidable (1 ≤ m ∧ s ≤ 59))

/-! ## Reading a text -/

theorem number_toDigits (n : Nat) : number (Nat.toDigits 10 n) 0 = n :=
  Nat.ofDigitChars_toDigits (by decide) (by decide)

theorem paddedDigits_two {n : Nat} (h : n < 100) :
    Decimal.Binary.paddedDigits 2 n = [(n / 10).digitChar, (n % 10).digitChar] := by
  unfold Decimal.Binary.paddedDigits
  by_cases hn : n < 10
  · rw [Nat.toDigits_of_lt_base hn, Nat.div_eq_of_lt hn, Nat.mod_eq_of_lt hn]
    rfl
  · rw [Nat.toDigits_of_base_le (by decide) (Nat.le_of_not_lt hn),
      Nat.toDigits_of_lt_base (by omega)]
    rfl

theorem number_two (front : Nat) {n : Nat} (h : n < 100) :
    number [(n / 10).digitChar, (n % 10).digitChar] front = 100 * front + n := by
  have hvalue : ∀ d < 10, d.digitChar.toNat - '0'.toNat = d := by decide
  simp only [number, Nat.ofDigitChars_cons, Nat.ofDigitChars_nil, hvalue (n / 10) (by omega),
    hvalue (n % 10) (by omega)]
  omega

theorem takeWhile_numeral (n : Nat) {c : Char} (hc : c.isDigit = false) (rest : List Char) :
    (Nat.toDigits 10 n ++ c :: rest).takeWhile Char.isDigit = Nat.toDigits 10 n ∧
      (Nat.toDigits 10 n ++ c :: rest).dropWhile Char.isDigit = c :: rest :=
  ⟨takeWhile_run (fun _ => isDigit_of_toDigits) (stops_cons_iff.mpr hc),
    dropWhile_run (fun _ => isDigit_of_toDigits) (stops_cons_iff.mpr hc)⟩

/-- Every reading is found again in its text. -/
theorem read?_text (r : Reading) : read? r.text.toList = some r := by
  cases r with
  | microseconds n =>
    obtain ⟨htake, hdrop⟩ := takeWhile_numeral n (c := 'µ') (by decide) ['s']
    have htext : (text (.microseconds n)).toList = Nat.toDigits 10 n ++ ['µ', 's'] := by
      simp [text]
    rw [read?, htext, htake, hdrop, number_toDigits]
    rfl
  | milliseconds n =>
    obtain ⟨htake, hdrop⟩ := takeWhile_numeral n (c := 'm') (by decide) ['s']
    have htext : (text (.milliseconds n)).toList = Nat.toDigits 10 n ++ ['m', 's'] := by
      simp [text]
    rw [read?, htext, htake, hdrop, number_toDigits]
    rfl
  | hundredths n =>
    have hrest : n % 100 < 100 := Nat.mod_lt n (by decide)
    obtain ⟨htake, hdrop⟩ := takeWhile_numeral (n / 100) (c := '.') (by decide)
      [(n % 100 / 10).digitChar, (n % 100 % 10).digitChar, 's']
    have htext : (text (.hundredths n)).toList = Nat.toDigits 10 (n / 100) ++
        ['.', (n % 100 / 10).digitChar, (n % 100 % 10).digitChar, 's'] := by
      simp [text, paddedDigits_two hrest]
    rw [read?, htext, htake, hdrop, number_toDigits]
    exact congrArg (fun count => some (hundredths count))
      ((number_two _ hrest).trans (Nat.div_add_mod n 100))
  | minutes m s =>
    by_cases hs : s = 0
    · subst hs
      obtain ⟨htake, hdrop⟩ := takeWhile_numeral m (c := 'm') (by decide) []
      have htext : (text (.minutes m 0)).toList = Nat.toDigits 10 m ++ ['m'] := by
        simp [text]
      rw [read?, htext, htake, hdrop, number_toDigits]
      rfl
    · obtain ⟨htake, hdrop⟩ := takeWhile_numeral m (c := 'm') (by decide)
        (' ' :: (Nat.toDigits 10 s ++ ['s']))
      obtain ⟨htake', hdrop'⟩ := takeWhile_numeral s (c := 's') (by decide) []
      have htext : (text (.minutes m s)).toList =
          Nat.toDigits 10 m ++ 'm' :: ' ' :: (Nat.toDigits 10 s ++ ['s']) := by
        simp [text, hs]
      rw [read?, htext, htake, hdrop, number_toDigits]
      exact (if_pos hdrop').trans (by rw [htake', number_toDigits])

end Reading

/-! ## The binary number of seconds -/

open Decimal

def total (e : Elapsed) : Nat := e.seconds * 1000000000 + e.nanos

theorem eq_of_total {e longer : Elapsed} (h : e.nanos < 1000000000)
    (hlonger : longer.nanos < 1000000000) (htotal : e.total = longer.total) : e = longer := by
  obtain ⟨seconds, nanos⟩ := e
  obtain ⟨seconds', nanos'⟩ := longer
  simp only [total] at h hlonger htotal
  obtain ⟨rfl, rfl⟩ : seconds = seconds' ∧ nanos = nanos' := by omega
  rfl

def inSeconds (e : Elapsed) : ℚ := e.seconds + (e.nanos : ℚ) / (1000000000 : Nat)

theorem inSeconds_eq (e : Elapsed) : e.inSeconds * 1000000000 = e.total := by
  rw [inSeconds, total]
  push_cast
  ring

theorem inSeconds_cases (e : Elapsed) : e = ⟨0, 0⟩ ∨ 1 ≤ e.inSeconds * 1000000000 := by
  rw [inSeconds_eq]
  rcases Nat.eq_zero_or_pos e.total with hnone | hpos
  · obtain ⟨seconds, nanos⟩ := e
    unfold total at hnone
    obtain ⟨rfl, rfl⟩ : seconds = 0 ∧ nanos = 0 := by
      dsimp only at hnone
      omega
    exact Or.inl rfl
  · exact Or.inr (by exact_mod_cast hpos)

theorem fraction_error (nanos : Nat) :
    |(Binary.ofQuotient nanos 1000000000).value - (nanos : ℚ) / (1000000000 : Nat)| ≤
      (nanos : ℚ) / (1000000000 : Nat) / 2 ^ 53 := by
  refine Binary.ofQuotient_error_le (by decide) ?_
  rcases Nat.eq_zero_or_pos nanos with rfl | hsome
  · exact Or.inl (by rw [Nat.cast_zero, zero_div])
  · have hone : (1 : ℚ) ≤ nanos := by exact_mod_cast hsome
    refine Binary.normal_of_le ?_
    push_cast
    linarith

theorem toBinary_error (e : Elapsed) :
    |e.toBinary.value - e.inSeconds| ≤ e.inSeconds / 2 ^ 51 := by
  rcases e.inSeconds_cases with rfl | hpos
  · decide +kernel
  have hseconds := abs_le.mp (Binary.ofNat_error e.seconds)
  have hfraction := abs_le.mp (fraction_error e.nanos)
  unfold inSeconds at hpos ⊢
  have hnormal : Binary.Normal ((Binary.ofNat e.seconds).value +
      (Binary.ofQuotient e.nanos 1000000000).value) := Binary.normal_of_le (by linarith)
  have hsum := abs_le.mp (Binary.add_error hnormal)
  rw [abs_le, toBinary]
  constructor
  · linarith
  · linarith

def hundredths (e : Elapsed) : Nat := e.toBinary.inPlaces 2

/-- The hundredths of a span below thirteen days are nearest to it: the errors of the binary numbers
do not add up to a nanosecond. -/
theorem hundredths_near {e : Elapsed} (h : e.total < 2 ^ 50) :
    2 * (e.hundredths * 10000000) ≤ 2 * e.total + 10000000 ∧
      2 * e.total ≤ 2 * (e.hundredths * 10000000) + 10000000 := by
  have hbinary := abs_le.mp e.toBinary_error
  have hplaces := abs_le.mp (e.toBinary.inPlaces_error 2)
  have htotal := e.inSeconds_eq
  have hsmall : (e.total : ℚ) + 1 ≤ 2 ^ 50 := by exact_mod_cast h
  have hlow : (2 * (e.hundredths * 10000000) : ℚ) < 2 * e.total + 10000000 + 1 := by
    unfold hundredths
    linarith
  have hhigh : (2 * e.total : ℚ) < 2 * (e.hundredths * 10000000) + 10000000 + 1 := by
    unfold hundredths
    linarith
  constructor
  · exact Nat.le_of_lt_succ (by exact_mod_cast hlow)
  · exact Nat.le_of_lt_succ (by exact_mod_cast hhigh)

/-- The binary number of seconds is one or more exactly if there is a whole second. -/
theorem reaches_one_iff {e : Elapsed} (h : e.nanos < 1000000000) :
    e.toBinary.reaches 1 = true ↔ 1 ≤ e.seconds := by
  have hbinary := abs_le.mp e.toBinary_error
  have htotal := e.inSeconds_eq
  rw [Binary.reaches_iff, Nat.cast_one]
  constructor
  · intro hreached
    by_contra hnone
    have hbelow : (e.total : ℚ) ≤ 999999999 := by
      have : e.total ≤ 999999999 := by
        unfold total
        omega
      exact_mod_cast this
    linarith
  · intro hsecond
    by_cases hexact : e.total = 1000000000
    · -- One second is a binary number.
      obtain rfl : e = ⟨1, 0⟩ := eq_of_total h (by decide) hexact
      decide +kernel
    · have habove : (1000000001 : ℚ) ≤ e.total := by
        have : 1000000001 ≤ e.total := by
          unfold total at hexact ⊢
          omega
        exact_mod_cast this
      linarith

/-! ## The reading of a short form -/

def reading (e : Elapsed) : Reading :=
  if 60 ≤ e.seconds then .minutes (e.seconds / 60) (e.seconds % 60)
  else if e.toBinary.reaches 1 then .hundredths e.hundredths
  else if 1000000 ≤ e.nanos then .milliseconds (e.nanos / 1000000)
  else .microseconds (e.nanos / 1000)

theorem text_eq (e : Elapsed) : e.text = e.reading.text := by
  unfold text reading
  split
  · rfl
  split
  · rw [Decimal.Binary.fixedText_eq]
    rfl
  split <;> rfl

/-- The four forms, by the length of the span. -/
inductive Form (e : Elapsed) : Reading → Prop where
  | minutes : 60000000000 ≤ e.total → Form e (.minutes (e.seconds / 60) (e.seconds % 60))
  | hundredths : 1000000000 ≤ e.total → e.total < 60000000000 → Form e (.hundredths e.hundredths)
  | milliseconds : 1000000 ≤ e.total → e.total < 1000000000 →
      Form e (.milliseconds (e.total / 1000000))
  | microseconds : e.total < 1000000 → Form e (.microseconds (e.total / 1000))

theorem reading_form {e : Elapsed} (h : e.nanos < 1000000000) : e.Form e.reading := by
  have hreaches := reaches_one_iff h
  have htotal : e.total = e.seconds * 1000000000 + e.nanos := rfl
  unfold reading
  split
  · exact .minutes (by omega)
  split
  · rename_i hsecond
    rw [hreaches] at hsecond
    exact .hundredths (by omega) (by omega)
  rename_i hsecond
  rw [hreaches] at hsecond
  -- There is no whole second, so the nanoseconds are all there is.
  have hnanos : e.nanos = e.total := by omega
  rw [hnanos]
  split
  · exact .milliseconds (by omega) (by omega)
  · exact .microseconds (by omega)

/-- Below a minute the hundredths are short of sixty seconds up to half a hundredth before it; the
half itself is cut, as its binary number lies below it. -/
theorem hundredths_lt_iff {e : Elapsed} (h : e.nanos < 1000000000)
    (htotal : e.total < 60000000000) :
    e.hundredths < 6000 ↔ e.total ≤ 59995000000 := by
  have hnear := hundredths_near (e := e) (by omega)
  by_cases hhalf : e.total = 59995000000
  · obtain rfl : e = ⟨59, 995000000⟩ := eq_of_total h (by decide) hhalf
    decide +kernel
  · omega

theorem hundredths_mono {e longer : Elapsed} (h : e.nanos < 1000000000)
    (hlonger : longer.nanos < 1000000000) (htotal : longer.total < 60000000000)
    (hle : e.total ≤ longer.total) : e.hundredths ≤ longer.hundredths := by
  rcases Nat.eq_or_lt_of_le hle with heq | hlt
  · rw [eq_of_total h hlonger heq]
  · have hnear := hundredths_near (e := e) (by omega)
    have hnear' := hundredths_near (e := longer) (by omega)
    omega

theorem hundredths_range {e : Elapsed} (h : 1000000000 ≤ e.total) (h' : e.total < 60000000000) :
    100 ≤ e.hundredths ∧ e.hundredths ≤ 6000 := by
  have hnear := hundredths_near (e := e) (by omega)
  omega

section Forms

variable {e longer : Elapsed} {r r' : Reading}

/-- A reading is less than a unit of its last place away from the span. -/
theorem Form.near (h : e.nanos < 1000000000) (hform : e.Form r) :
    r.nanos < e.total + r.unit ∧ e.total < r.nanos + r.unit := by
  have htotal : e.total = e.seconds * 1000000000 + e.nanos := rfl
  cases hform with
  | minutes hspan =>
    simp only [Reading.nanos, Reading.unit]
    omega
  | hundredths hspan hbelow =>
    have hnear := hundredths_near (e := e) (by omega)
    simp only [Reading.nanos, Reading.unit]
    omega
  | milliseconds hspan hbelow =>
    simp only [Reading.nanos, Reading.unit]
    omega
  | microseconds hbelow =>
    simp only [Reading.nanos, Reading.unit]
    omega

/-- A reading stays within its units but in the last half of a hundredth before a minute. -/
theorem Form.fits_iff (h : e.nanos < 1000000000) (hform : e.Form r) :
    r.Fits ↔ ¬ (59995000000 < e.total ∧ e.total < 60000000000) := by
  have htotal : e.total = e.seconds * 1000000000 + e.nanos := rfl
  cases hform with
  | minutes hspan =>
    rw [Reading.Fits]
    omega
  | hundredths hspan hbelow =>
    have hrange := hundredths_range hspan hbelow
    rw [Reading.Fits, hundredths_lt_iff h hbelow]
    omega
  | milliseconds hspan hbelow =>
    rw [Reading.Fits]
    omega
  | microseconds hbelow =>
    rw [Reading.Fits]
    omega

theorem Form.eq_of_not_fits (h : e.nanos < 1000000000) (hform : e.Form r) (hfits : ¬ r.Fits) :
    r = .hundredths 6000 := by
  have hwindow := Decidable.not_not.mp (mt (hform.fits_iff h).mpr hfits)
  cases hform with
  | minutes hspan => omega
  | hundredths hspan hbelow =>
    have hrange := hundredths_range hspan hbelow
    have hsixty := hundredths_lt_iff h hbelow
    rw [show e.hundredths = 6000 by omega]
  | milliseconds hspan hbelow => omega
  | microseconds hbelow => omega

/-- A longer span does not read as a shorter one. In one form the counts are compared; across two,
both readings are compared with the span at which the forms meet. -/
theorem Form.mono (h : e.nanos < 1000000000) (hlonger : longer.nanos < 1000000000)
    (hle : e.total ≤ longer.total) (hform : e.Form r) (hform' : longer.Form r') :
    r.nanos ≤ r'.nanos := by
  have htotal : e.total = e.seconds * 1000000000 + e.nanos := rfl
  have htotal' : longer.total = longer.seconds * 1000000000 + longer.nanos := rfl
  cases hform with
  | minutes hspan => cases hform' <;> simp only [Reading.nanos] <;> omega
  | hundredths hspan hbelow =>
    have hrange := hundredths_range hspan hbelow
    cases hform' with
    | minutes hspan' =>
      simp only [Reading.nanos]
      omega
    | hundredths hspan' hbelow' =>
      exact Nat.mul_le_mul_right 10000000 (hundredths_mono h hlonger hbelow' hle)
    | milliseconds hspan' hbelow' => omega
    | microseconds hbelow' => omega
  | milliseconds hspan hbelow =>
    cases hform' with
    | hundredths hspan' hbelow' =>
      have hrange := hundredths_range hspan' hbelow'
      simp only [Reading.nanos]
      omega
    | _ =>
      simp only [Reading.nanos]
      omega
  | microseconds hbelow =>
    cases hform' with
    | hundredths hspan' hbelow' =>
      have hrange := hundredths_range hspan' hbelow'
      simp only [Reading.nanos]
      omega
    | _ =>
      simp only [Reading.nanos]
      omega

end Forms

/-- The short form of a span says what a reading stands for. -/
structure Shows (e : Elapsed) (r : Reading) : Prop where
  written : e.text = r.text
  readBack : Reading.read? e.text.toList = some r
  notAbove : r.nanos < e.total + r.unit
  notBelow : e.total < r.nanos + r.unit
  /-- Minutes and seconds are the whole seconds, so no seconds are shown of a multiple of sixty. -/
  whole : ∀ m s, r = .minutes m s → e.seconds = 60 * m + s

theorem reading_shows {e : Elapsed} (h : e.nanos < 1000000000) : e.Shows e.reading where
  written := e.text_eq
  readBack := by rw [text_eq, Reading.read?_text]
  notAbove := ((reading_form h).near h).1
  notBelow := ((reading_form h).near h).2
  whole m s hread := by
    have hform := reading_form h
    rw [hread] at hform
    cases hform
    exact (Nat.div_add_mod e.seconds 60).symm

theorem Shows.eq_reading {e : Elapsed} {r : Reading} (h : e.Shows r) : r = e.reading := by
  have hread := h.readBack
  rw [text_eq, Reading.read?_text] at hread
  exact (Option.some.inj hread).symm

/-- The short form of a span is the text of a reading, and is read back as it: as a span that
differs by less than a unit of the last place shown, and that grows with the span itself. The
reading stays within its units exactly if the span is not in the last half of a hundredth before a
minute, where sixty seconds are shown. -/
theorem text_reads_back {e : Elapsed} (h : e.nanos < 1000000000) :
    ∃ r, e.Shows r ∧
      (r.Fits ↔ ¬ (59995000000 < e.total ∧ e.total < 60000000000)) ∧
      (¬ r.Fits → e.text = "60.00s") ∧
      ∀ (longer : Elapsed) (r' : Reading), longer.nanos < 1000000000 → e.total ≤ longer.total →
        longer.Shows r' → r.nanos ≤ r'.nanos := by
  have hform := reading_form h
  refine ⟨e.reading, reading_shows h, hform.fits_iff h, ?_, ?_⟩
  · intro hfits
    rw [text_eq, hform.eq_of_not_fits h hfits]
    decide +kernel
  · intro longer r' hlonger hle hshows
    rw [hshows.eq_reading]
    exact hform.mono h hlonger hle (reading_form hlonger)

/-- Half a hundredth before a minute, and the minute itself. -/
theorem text_reads_back_before_minute :
    let e : Elapsed := ⟨59, 995000000⟩
    let minute : Elapsed := ⟨60, 0⟩
    e.nanos < 1000000000 ∧ minute.nanos < 1000000000 ∧ e.total ≤ minute.total ∧
      ∃ r, e.Shows r ∧ r.Fits ∧ ∃ r', minute.Shows r' ∧ r'.Fits ∧ r.nanos ≤ r'.nanos := by
  intro e minute
  obtain ⟨r, hshows, hfits, _, hmono⟩ := text_reads_back (e := e) (by decide)
  obtain ⟨r', hshows', hfits', _⟩ := text_reads_back (e := minute) (by decide)
  refine ⟨by decide, by decide, by decide, r, hshows, hfits.mpr (by decide), r', hshows',
    hfits'.mpr (by decide), ?_⟩
  exact hmono minute r' (by decide) (by decide) hshows'

/-- A millisecond before a minute sixty seconds are shown, which the next unit has a form for. -/
theorem text_overflows :
    let e : Elapsed := ⟨59, 999000000⟩
    e.text = "60.00s" ∧ Reading.read? e.text.toList = some (.hundredths 6000) ∧
      ¬ (Reading.hundredths 6000).Fits ∧ (⟨60, 0⟩ : Elapsed).text = "1m" := by
  decide +kernel

end ToolBootstrap.Elapsed
