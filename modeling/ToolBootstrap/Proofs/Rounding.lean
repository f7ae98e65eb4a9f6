import Mathlib.Algebra.Order.Field.Power
import Mathlib.Data.Rat.Cast.Order
import Mathlib.Tactic.FieldSimp
import Mathlib.Tactic.Linarith
import Mathlib.Tactic.NormNum
import Mathlib.Tactic.Positivity
import Mathlib.Tactic.Ring
import ToolBootstrap.Decimal.Binary

/- How far rounding goes.

   A quotient of naturals is rounded to a whole number, or to a binary64 number, that differs from
   it by at most half a unit of its last place (`nearestEven_error`, `ofQuotient_error`). The unit
   of a binary64 number is a small part of the number, unless the number is among the least ones of
   all; so the error is at most the 2^53rd part of the quotient (`ofQuotient_error_le`) or of the
   sum (`add_error`) that is rounded. -/

namespace ToolBootstrap.Decimal

/-! ## Whole numbers -/

/-- The nearest natural is at most a half away, in cross products. -/
theorem nearestEven_bounds (num : Nat) {den : Nat} (hden : 0 < den) :
    2 * (den * nearestEven num den) ≤ 2 * num + den ∧
      2 * num ≤ 2 * (den * nearestEven num den) + den := by
  have hsplit : den * (num / den) + num % den = num := Nat.div_add_mod num den
  have hrest : num % den < den := Nat.mod_lt num hden
  have hup : den * (num / den + 1) = den * (num / den) + den := Nat.mul_succ _ _
  unfold nearestEven
  dsimp only
  split
  · omega
  split
  · rw [hup]
    omega
  · -- A half: the quotient itself if it is even, and else the next one.
    rcases Nat.mod_two_eq_zero_or_one (num / den) with heven | hodd
    · rw [heven, Nat.add_zero]
      omega
    · rw [hodd, hup]
      omega

theorem nearestEven_error (num : Nat) {den : Nat} (hden : 0 < den) :
    |(nearestEven num den : ℚ) - num / den| ≤ 1 / 2 := by
  obtain ⟨hlow, hhigh⟩ := nearestEven_bounds num hden
  have hden' : (0 : ℚ) < den := by exact_mod_cast hden
  have hlow' : 2 * ((den : ℚ) * nearestEven num den) ≤ 2 * num + den := by exact_mod_cast hlow
  have hhigh' : 2 * (num : ℚ) ≤ 2 * (den * nearestEven num den) + den := by exact_mod_cast hhigh
  have habove : (num : ℚ) / den ≤ nearestEven num den + 1 / 2 :=
    (div_le_iff₀ hden').mpr (by linarith)
  have hbelow : (nearestEven num den : ℚ) - 1 / 2 ≤ num / den :=
    (le_div_iff₀ hden').mpr (by linarith)
  rw [abs_le]
  constructor
  · linarith
  · linarith

/-! ## Numbers as quotients -/

theorem twoTo_cast (n : Nat) : ((twoTo n : Nat) : ℚ) = 2 ^ n := by
  rw [twoTo]
  exact Nat.cast_pow 2 n

theorem tenTo_cast (n : Nat) : ((tenTo n : Nat) : ℚ) = 10 ^ n := by
  rw [tenTo]
  exact Nat.cast_pow 10 n

theorem twoTo_pos (n : Nat) : 0 < twoTo n := Nat.pow_pos (by decide)

theorem zpow_eq_div (e : Int) : (2 : ℚ) ^ e = 2 ^ e.toNat / 2 ^ (-e).toNat := by
  rw [← zpow_natCast, ← zpow_natCast, ← zpow_sub₀ two_ne_zero]
  congr 1
  omega

namespace Binary

variable {num den : Nat}

def value (b : Binary) : ℚ := b.significand * 2 ^ b.exponent

theorem scaled_pos (num : Nat) (hden : 0 < den) (exponent : Int) :
    0 < (scaled num den exponent).2 :=
  Nat.mul_pos hden (twoTo_pos _)

theorem scaled_div (num den : Nat) (exponent : Int) :
    ((scaled num den exponent).1 : ℚ) / (scaled num den exponent).2 = num / den / 2 ^ exponent := by
  simp only [scaled, Nat.cast_mul, twoTo_cast, zpow_eq_div]
  field_simp

theorem toQuotient_pos (b : Binary) : 0 < b.toQuotient.2 := scaled_pos _ Nat.one_pos _

theorem toQuotient_div (b : Binary) :
    (b.toQuotient.1 : ℚ) / b.toQuotient.2 = b.value := by
  rw [toQuotient, scaled_div, Nat.cast_one, div_one, zpow_neg, div_inv_eq_mul, value]

theorem reaches_iff (b : Binary) (n : Nat) : b.reaches n = true ↔ (n : ℚ) ≤ b.value := by
  have hpos : (0 : ℚ) < b.toQuotient.2 := by exact_mod_cast b.toQuotient_pos
  rw [← toQuotient_div, le_div_iff₀ hpos, reaches, decide_eq_true_iff]
  exact_mod_cast Iff.rfl

/-! ## The nearest number -/

theorem zpow_estimate_le (hnum : 0 < num) (hden : 0 < den) :
    (2 : ℚ) ^ ((num.log2 : Int) - den.log2 - 53 + 52) ≤ num / den := by
  have hlow : (2 : ℚ) ^ num.log2 ≤ num := by exact_mod_cast Nat.log2_self_le hnum.ne'
  have hhigh : (den : ℚ) ≤ 2 ^ (den.log2 + 1) := by exact_mod_cast Nat.lt_log2_self.le
  have hpos : (0 : ℚ) < den := by exact_mod_cast hden
  calc (2 : ℚ) ^ ((num.log2 : Int) - den.log2 - 53 + 52)
      = 2 ^ (num.log2 : Int) / 2 ^ ((den.log2 + 1 : Nat) : Int) := by
        rw [← zpow_sub₀ two_ne_zero]
        congr 1
        push_cast
        ring
    _ = 2 ^ num.log2 / 2 ^ (den.log2 + 1) := by rw [zpow_natCast, zpow_natCast]
    _ ≤ num / den := div_le_div₀ (Nat.cast_nonneg num) hlow hpos hhigh

/-- The leading bit of a positive quotient stands at place 52 or above, unless the exponent is the
least one. -/
theorem exponentOf_spec (hnum : 0 < num) (hden : 0 < den) :
    exponentOf num den = -1074 ∨ (2 : ℚ) ^ (exponentOf num den + 52) ≤ num / den := by
  have hestimate := zpow_estimate_le hnum hden
  unfold exponentOf
  dsimp only
  set estimate : Int := (num.log2 : Int) - den.log2 - 53
  rcases max_choice (if twoTo 53 * (scaled num den estimate).2 ≤ (scaled num den estimate).1 then
    estimate + 1 else estimate) (-1074) with hmax | hmax
  · right
    rw [hmax]
    split
    · rename_i hreached
      have hpos : (0 : ℚ) < (scaled num den estimate).2 := by
        exact_mod_cast scaled_pos num hden estimate
      have hreached' : (2 : ℚ) ^ 53 * (scaled num den estimate).2 ≤
        (scaled num den estimate).1 := by
        rw [← twoTo_cast]
        exact_mod_cast hreached
      rw [← le_div_iff₀ hpos, scaled_div, le_div_iff₀ (by positivity), ← zpow_natCast,
        ← zpow_add₀ two_ne_zero] at hreached'
      rwa [show estimate + 1 + 52 = ((53 : Nat) : Int) + estimate by push_cast; ring]
    · exact hestimate
  · exact Or.inl hmax

/-- The nearest number is at most half a unit of its last place away. -/
theorem ofQuotient_error (hnum : 0 < num) (hden : 0 < den) :
    |(ofQuotient num den).value - num / den| ≤ 2 ^ exponentOf num den / 2 := by
  have hunit : (0 : ℚ) < 2 ^ exponentOf num den := by positivity
  -- A significand that has grown to the next power of two is written with the next exponent.
  have hvalue : (ofQuotient num den).value =
      nearestEven (scaled num den (exponentOf num den)).1 (scaled num den (exponentOf num den)).2 *
        2 ^ exponentOf num den := by
    unfold ofQuotient
    rw [if_neg hnum.ne']
    dsimp only
    split
    · rename_i hfull
      rw [hfull, value, twoTo_cast, twoTo_cast, zpow_add₀ two_ne_zero]
      ring
    · rfl
  have herror := nearestEven_error (scaled num den (exponentOf num den)).1
    (scaled_pos num hden (exponentOf num den))
  rw [scaled_div] at herror
  calc |(ofQuotient num den).value - num / den|
      = |(nearestEven (scaled num den (exponentOf num den)).1
          (scaled num den (exponentOf num den)).2 : ℚ) - num / den / 2 ^ exponentOf num den| *
            2 ^ exponentOf num den := by
        rw [hvalue, ← abs_of_pos hunit, ← abs_mul, abs_of_pos hunit, sub_mul,
          div_mul_cancel₀ _ hunit.ne']
    _ ≤ 1 / 2 * 2 ^ exponentOf num den := mul_le_mul_of_nonneg_right herror hunit.le
    _ = 2 ^ exponentOf num den / 2 := by ring

/-- A quotient is in the range in which numbers have all their places. -/
def Normal (x : ℚ) : Prop := x = 0 ∨ (2 : ℚ) ^ (-1022 : Int) ≤ x

/-- The nearest number differs from a quotient by a small part of it. -/
theorem ofQuotient_error_le (hden : 0 < den) (h : Normal (num / den : ℚ)) :
    |(ofQuotient num den).value - num / den| ≤ num / den / 2 ^ 53 := by
  rcases Nat.eq_zero_or_pos num with rfl | hnum
  · simp [ofQuotient, value, zero]
  have hpos : (0 : ℚ) < num / den := by positivity
  have hnormal : (2 : ℚ) ^ (-1022 : Int) ≤ num / den := h.resolve_left hpos.ne'
  have hleading : (2 : ℚ) ^ (exponentOf num den + 52) ≤ num / den := by
    rcases exponentOf_spec hnum hden with hleast | hle
    · rw [hleast]
      exact hnormal
    · exact hle
  rw [zpow_add₀ two_ne_zero] at hleading
  calc |(ofQuotient num den).value - num / den|
      ≤ 2 ^ exponentOf num den / 2 := ofQuotient_error hnum hden
    _ = 2 ^ exponentOf num den * 2 ^ (52 : Int) / 2 ^ 53 := by
        norm_num
        ring
    _ ≤ num / den / 2 ^ 53 := by
        exact div_le_div_of_nonneg_right hleading (by positivity)

/-- A number that is not much smaller than one is far above the least ones. -/
theorem normal_of_le {x : ℚ} (h : 1 / 2 ^ 40 ≤ x) : Normal x := by
  right
  calc (2 : ℚ) ^ (-1022 : Int)
      ≤ 2 ^ (-40 : Int) := zpow_le_zpow_right₀ one_le_two (by decide)
    _ = 1 / 2 ^ 40 := by norm_num
    _ ≤ x := h

theorem ofNat_error (n : Nat) : |(ofNat n).value - n| ≤ n / 2 ^ 53 := by
  have hnormal : Normal ((n : ℚ) / (1 : Nat)) := by
    rw [Nat.cast_one, div_one]
    rcases Nat.eq_zero_or_pos n with rfl | hpos
    · exact Or.inl Nat.cast_zero
    · have hone : (1 : ℚ) ≤ n := by exact_mod_cast hpos
      exact normal_of_le (by linarith)
  simpa only [ofNat, Nat.cast_one, div_one] using ofQuotient_error_le Nat.one_pos hnormal

theorem add_error {a b : Binary} (h : Normal (a.value + b.value)) :
    |(a.add b).value - (a.value + b.value)| ≤ (a.value + b.value) / 2 ^ 53 := by
  have ha : (a.toQuotient.2 : ℚ) ≠ 0 := by exact_mod_cast a.toQuotient_pos.ne'
  have hb : (b.toQuotient.2 : ℚ) ≠ 0 := by exact_mod_cast b.toQuotient_pos.ne'
  have hsum : ((a.toQuotient.1 * b.toQuotient.2 + b.toQuotient.1 * a.toQuotient.2 : Nat) : ℚ) /
      (a.toQuotient.2 * b.toQuotient.2 : Nat) = a.value + b.value := by
    rw [← toQuotient_div, ← toQuotient_div, div_add_div _ _ ha hb]
    push_cast
    ring
  rw [← hsum] at h ⊢
  exact ofQuotient_error_le (Nat.mul_pos a.toQuotient_pos b.toQuotient_pos) h

/-! ## Decimal places -/

/-- A number in units of a decimal place, to the nearest unit. -/
def inPlaces (places : Nat) (b : Binary) : Nat :=
  nearestEven (b.toQuotient.1 * tenTo places) b.toQuotient.2

theorem fixedText_eq (places : Nat) (b : Binary) : fixedText places b =
    toString (b.inPlaces places / tenTo places) ++ "." ++
      String.ofList (paddedDigits places (b.inPlaces places % tenTo places)) := rfl

theorem inPlaces_error (places : Nat) (b : Binary) :
    |(b.inPlaces places : ℚ) - b.value * 10 ^ places| ≤ 1 / 2 := by
  have herror := nearestEven_error (b.toQuotient.1 * tenTo places) b.toQuotient_pos
  rwa [Nat.cast_mul, mul_div_right_comm, toQuotient_div, tenTo_cast] at herror

end Binary

end ToolBootstrap.Decimal
