import ToolBootstrap.Proofs.Text
import ToolBootstrap.SemVer

/- How a semantic version is spelt.

   A version is three runs of digits with points between them, and after these a pre-release part
   and build metadata, each behind its mark and not empty. So it is not empty, and holds digits,
   letters, points and the two marks only; white space stands in none (`Spelling.not_blank`). -/

namespace ToolBootstrap

theorem isBlank_of_printed {c : Char} (hlow : 0x21 ≤ c.toNat) (hhigh : c.toNat ≤ 0x7E) :
    isBlank c = false := by
  unfold isBlank
  simp only [blankRanges, List.any_cons, List.any_nil, Bool.or_false]
  grind

theorem isAlpha_range {c : Char} (h : c.isAlpha = true) : 0x41 ≤ c.toNat ∧ c.toNat ≤ 0x7A := by
  have hcase : c.isUpper = true ∨ c.isLower = true := (Bool.or_eq_true _ _).mp h
  rcases hcase with hupper | hlower
  · obtain ⟨hfirst, hlast⟩ : 0x41 ≤ c.toNat ∧ c.toNat ≤ 0x5A := of_decide_eq_true hupper
    omega
  · obtain ⟨hfirst, hlast⟩ := (Bool.and_eq_true _ _).mp hlower
    have : 0x61 ≤ c.toNat := of_decide_eq_true hfirst
    have : c.toNat ≤ 0x7A := of_decide_eq_true hlast
    omega

namespace SemVer

/-! ## Spellings -/

def IsNumeral (cs : List Char) : Prop := cs ≠ [] ∧ ∀ c ∈ cs, c.isDigit = true

/-- What stands behind a mark, with the mark; or nothing. -/
def IsMarked (mark : Char) (cs : List Char) : Prop :=
  cs = [] ∨ ∃ inside, cs = mark :: inside ∧ inside ≠ [] ∧
    ∀ c ∈ inside, isSegmentChar c = true ∨ c = '.'

inductive Spelling : List Char → Prop where
  | of {major minor patch preRelease build : List Char} : IsNumeral major → IsNumeral minor →
      IsNumeral patch → IsMarked '-' preRelease → IsMarked '+' build →
      Spelling (major ++ '.' :: (minor ++ '.' :: (patch ++ (preRelease ++ build))))

theorem Spelling.ne_nil {cs : List Char} (h : Spelling cs) : cs ≠ [] := by
  cases h with
  | of hmajor => exact List.append_ne_nil_of_left_ne_nil hmajor.1 _

theorem IsNumeral.char {cs : List Char} (h : IsNumeral cs) {c : Char} (hc : c ∈ cs) :
    isSegmentChar c = true := by
  simp [isSegmentChar, h.2 c hc]

theorem IsMarked.char {mark : Char} {cs : List Char} (h : IsMarked mark cs) {c : Char}
    (hc : c ∈ cs) : c = mark ∨ isSegmentChar c = true ∨ c = '.' := by
  rcases h with rfl | ⟨inside, rfl, _, hall⟩
  · cases hc
  · exact (List.mem_cons.mp hc).imp_right (hall c)

/-- A version holds digits, letters, hyphens, points and pluses only. -/
theorem Spelling.char {cs : List Char} (h : Spelling cs) {c : Char} (hc : c ∈ cs) :
    isSegmentChar c = true ∨ c = '.' ∨ c = '+' := by
  cases h with
  | of hmajor hminor hpatch hpre hbuild =>
    simp only [List.mem_append, List.mem_cons] at hc
    rcases hc with hc | rfl | hc | rfl | hc | hc | hc
    · exact Or.inl (hmajor.char hc)
    · exact Or.inr (Or.inl rfl)
    · exact Or.inl (hminor.char hc)
    · exact Or.inr (Or.inl rfl)
    · exact Or.inl (hpatch.char hc)
    · rcases hpre.char hc with rfl | hchar | rfl
      · exact Or.inl (by decide)
      · exact Or.inl hchar
      · exact Or.inr (Or.inl rfl)
    · rcases hbuild.char hc with rfl | hchar | rfl
      · exact Or.inr (Or.inr rfl)
      · exact Or.inl hchar
      · exact Or.inr (Or.inl rfl)

theorem isSegmentChar_range {c : Char} (h : isSegmentChar c = true) :
    0x2D ≤ c.toNat ∧ c.toNat ≤ 0x7A := by
  simp only [isSegmentChar, Bool.or_eq_true, Bool.and_eq_true, decide_eq_true_eq, beq_iff_eq,
    Char.le_def, UInt32.le_iff_toNat_le] at h
  rcases h with ((h | h) | h) | rfl
  · have := isDigit_range h
    omega
  · change 0x41 ≤ c.toNat ∧ c.toNat ≤ 0x5A at h
    omega
  · change 0x61 ≤ c.toNat ∧ c.toNat ≤ 0x7A at h
    omega
  · decide

theorem Spelling.not_blank {cs : List Char} (h : Spelling cs) {c : Char} (hc : c ∈ cs) :
    isBlank c = false := by
  rcases h.char hc with hchar | rfl | rfl
  · have := isSegmentChar_range hchar
    exact isBlank_of_printed (by omega) (by omega)
  · decide
  · decide

end SemVer

end ToolBootstrap
