import ToolBootstrap.Proofs.PathSpelling
import ToolBootstrap.Proofs.Utf8

/- Octets that are a text, and paths that can be shown.

   A text that is cut at an octet below 128 leaves a text on both sides (`isText_append_iff`), so
   parts with such an octet between them make a text exactly if each of them is one
   (`isText_intercalate_iff`). A path is a text exactly if all its names are (`isText_iff_steps`):
   it depends on the place and not on the spelling, and a path below another one is a text if both
   are. What is shown of a path is the path itself exactly if it is a text; what is shown instead
   of any other path holds a replacement character. -/

namespace ToolBootstrap

/-! ## Octets -/

namespace Utf8

/-- Octets that encode a text. -/
def IsText (octets : Bytes) : Prop := ∃ text, encode text = octets

theorem isText_encode (text : String) : IsText (encode text) := ⟨text, rfl⟩

theorem encode_ofList (cs : List Char) : encode (String.ofList cs) = encodeChars cs := by
  rw [encode, String.toList_ofList]

theorem encode_injective {s t : String} (h : encode s = encode t) : s = t :=
  String.toList_inj.mp (encodeChars_injective h)

theorem isText_iff_decode? (octets : Bytes) :
    IsText octets ↔ (decode? octets).isSome = true := by
  constructor
  · intro ⟨text, he⟩
    subst he
    rw [decode?_encode]
    rfl
  · intro h
    obtain ⟨text, htext⟩ := Option.isSome_iff_exists.mp h
    exact ⟨text, encode_of_decode? htext⟩

instance (octets : Bytes) : Decidable (IsText octets) :=
  decidable_of_iff _ (isText_iff_decode? octets).symm

theorem encodeChars_ascii {a : UInt8} (ha : a.toNat < 0x80) :
    encodeChars [Char.ofNat a.toNat] = [a] := by
  have hvalue : (Char.ofNat a.toNat).toNat = a.toNat := toNat_ofNat (by omega)
  rw [encodeChars, List.flatMap_singleton, encode_char_ascii (by omega), hvalue, UInt8.ofNat_toNat]

theorem isText_append_iff {a : UInt8} (ha : a.toNat < 0x80) (front back : Bytes) :
    IsText (front ++ a :: back) ↔ IsText front ∧ IsText back := by
  constructor
  · intro ⟨text, htext⟩
    obtain ⟨s, c, t, -, hs, -, ht⟩ := encodeChars_split ha htext
    exact ⟨⟨String.ofList s, by rw [encode_ofList, hs]⟩,
      ⟨String.ofList t, by rw [encode_ofList, ht]⟩⟩
  · intro ⟨⟨s, he⟩, ⟨t, he'⟩⟩
    subst he
    subst he'
    refine ⟨s ++ String.ofList [Char.ofNat a.toNat] ++ t, ?_⟩
    simp only [encode_append, encode_ofList, encodeChars_ascii ha, List.append_assoc,
      List.singleton_append]

theorem isText_nil : IsText [] := isText_encode ""

theorem isText_intercalate_iff {sep : UInt8} (hsep : sep.toNat < 0x80) (parts : List Bytes) :
    IsText ([sep].intercalate parts) ↔ ∀ part ∈ parts, IsText part := by
  induction parts with
  | nil => simp [isText_nil]
  | cons part rest ih =>
    cases rest with
    | nil => simp
    | cons next others =>
      rw [List.intercalate_cons_cons, List.append_assoc, List.singleton_append,
        isText_append_iff hsep, ih]
      exact List.forall_mem_cons.symm

/-- What stands in a text from an octet below 128 to another one is a text. -/
theorem isText_of_infix {octets : Bytes} {a z : UInt8} {text : String}
    (ha : a.toNat < 0x80) (hz : z.toNat < 0x80) (hfirst : octets.head? = some a)
    (hlast : octets.getLast? = some z) (h : octets <:+: encode text) : IsText octets := by
  obtain ⟨before, after, hsplit⟩ := h
  obtain ⟨front, rfl⟩ := List.getLast?_eq_some_iff.mp hlast
  have htext : IsText (before ++ front ++ z :: after) := by
    refine ⟨text, ?_⟩
    rw [← hsplit]
    simp
  -- The text is cut behind the last octet, and then in front of the first one.
  obtain ⟨hfront, -⟩ := (isText_append_iff hz _ _).mp htext
  rw [isText_append_iff hz]
  refine ⟨?_, isText_nil⟩
  cases front with
  | nil => exact isText_nil
  | cons b rest =>
    obtain rfl : b = a := by simpa using hfirst
    obtain ⟨-, hrest⟩ := (isText_append_iff ha before rest).mp hfront
    exact (isText_append_iff ha [] rest).mpr ⟨isText_nil, hrest⟩

/-! ## What is shown of octets -/

theorem lossy_encode (text : String) : lossy (encode text) = text := by
  have hpieces : pieces (encode text) = text.toList.map Piece.scalar :=
    pieces_encodeChars text.toList
  rw [lossy, hpieces, List.map_map]
  exact (congrArg String.ofList (List.map_id _)).trans String.ofList_toList

theorem encode_lossy_iff (octets : Bytes) : encode (lossy octets) = octets ↔ IsText octets := by
  constructor
  · intro h
    exact ⟨lossy octets, h⟩
  · intro ⟨text, he⟩
    subst he
    rw [lossy_encode]

theorem isText_of_no_replacement {octets : Bytes} (h : '\uFFFD' ∉ (lossy octets).toList) :
    IsText octets := by
  have hpieces : pieces octets = (lossy octets).toList.map Piece.scalar := by
    rw [lossy, String.toList_ofList, List.map_map]
    refine ((List.map_congr_left ?_).trans (List.map_id _)).symm
    intro piece hpiece
    cases piece with
    | scalar c => rfl
    | broken run =>
      refine absurd ?_ h
      rw [lossy, String.toList_ofList]
      exact List.mem_map.mpr ⟨_, hpiece, rfl⟩
  exact ⟨lossy octets, encode_of_decode? (decode?_eq_some_iff.mpr hpieces)⟩

theorem head?_encode_iff (text : String) :
    (encode text).head? = some slash ↔ text.toList.head? = some '/' := by
  have hslash : String.utf8EncodeChar '/' = [slash] := by decide
  constructor
  · intro h
    obtain ⟨back, hback⟩ := List.head?_eq_some_iff.mp h
    have hcut : encodeChars text.toList = [] ++ slash :: back := hback
    obtain ⟨s, c, t, hchars, hs, hc, -⟩ := encodeChars_split (by decide) hcut
    obtain rfl : s = [] := encodeChars_injective hs
    have hsame : encodeChars [c] = encodeChars ['/'] := by
      simp only [encodeChars, List.flatMap_singleton, hc, hslash]
    obtain rfl := List.singleton_inj.mp (encodeChars_injective hsame)
    rw [hchars]
    rfl
  · intro h
    obtain ⟨rest, hrest⟩ := List.head?_eq_some_iff.mp h
    rw [encode, hrest, encodeChars, List.flatMap_cons, hslash]
    rfl

/-- A slash in front is shown as it stands, and nothing else is shown as one. -/
theorem head?_lossy_iff (octets : Bytes) :
    (lossy octets).toList.head? = some '/' ↔ octets.head? = some slash := by
  rw [lossy, String.toList_ofList]
  constructor
  · intro h
    -- The first piece is shown as a slash, so it is one.
    rw [← pieces_octets octets]
    cases hpieces : pieces octets with
    | nil =>
      rw [hpieces] at h
      cases h
    | cons piece rest =>
      rw [hpieces] at h
      cases piece with
      | scalar c =>
        obtain rfl : c = '/' := Option.some.inj h
        rfl
      | broken run =>
        have hreplaced : '\uFFFD' = '/' := Option.some.inj h
        exact absurd hreplaced (by decide)
  · intro h
    obtain ⟨rest, rfl⟩ := List.head?_eq_some_iff.mp h
    rw [pieces, piecesFrom_none_cons, start_one (by decide)]
    rfl

end Utf8

/-! ## Paths -/

namespace Path

/-- A path whose octets are a text. -/
def IsText (p : Path) : Prop := Utf8.IsText p.octets

instance (p : Path) : Decidable p.IsText := inferInstanceAs (Decidable (Utf8.IsText p.octets))

theorem encode_display_iff (p : Path) : Utf8.encode p.display = p.octets ↔ p.IsText :=
  Utf8.encode_lossy_iff p.octets

theorem isAbsolute_display (p : Path) : (ofText p.display).isAbsolute = p.isAbsolute := by
  rw [Bool.eq_iff_iff, isAbsolute, isAbsolute, beq_iff_eq, beq_iff_eq]
  exact (Utf8.head?_encode_iff p.display).trans (Utf8.head?_lossy_iff p.octets)

theorem mem_kept {part : Bytes} {parts : List Bytes} :
    part ∈ kept parts ↔ part ∈ parts ∧ ¬ (part = [] ∨ part = dotName) := by
  simp only [kept, List.mem_filter, decide_eq_true_eq, not_or, and_assoc]

/-- What is between slashes and names nothing is a text anyway. -/
theorem isText_iff_steps (p : Path) : p.IsText ↔ ∀ name ∈ steps p.octets, Utf8.IsText name := by
  have hslash : slash.toNat < 0x80 := by decide
  have hparts : p.IsText ↔ ∀ part ∈ p.octets.splitOn slash, Utf8.IsText part := by
    rw [← Utf8.isText_intercalate_iff hslash, List.intercalate_splitOn]
    rfl
  rw [hparts]
  constructor
  · intro h name hname
    exact h name (mem_kept.mp hname).1
  · intro h part hpart
    by_cases hidle : part = [] ∨ part = dotName
    · rcases hidle with rfl | rfl
      · exact Utf8.isText_nil
      · exact Utf8.isText_encode "."
    · exact h part (mem_kept.mpr ⟨hpart, hidle⟩)

theorem isText_of_same {p q : Path} (h : p.same q = true) (hp : p.IsText) : q.IsText := by
  rw [isText_iff_steps] at hp ⊢
  rwa [← (same_iff.mp h).2]

/-! ## Paths below others -/

section Join

variable {p q : Path} (hq : q.isAbsolute = false)
include hq

theorem join_cases : (p.join q).octets = p.octets ++ slash :: q.octets ∨
    (p.octets = [] ∨ p.octets.getLast? = some slash) ∧
      (p.join q).octets = p.octets ++ q.octets := by
  unfold join
  rw [if_neg (by simp [hq])]
  split
  · rename_i hends
    exact Or.inr ⟨hends, rfl⟩
  · exact Or.inl rfl

theorem join_between : ∃ between, (p.join q).octets = p.octets ++ between ++ q.octets := by
  rcases join_cases (p := p) hq with h | ⟨-, h⟩
  · exact ⟨[slash], by rw [h]; simp⟩
  · exact ⟨[], by rw [h]; simp⟩

theorem steps_join : steps (p.join q).octets = steps p.octets ++ steps q.octets := by
  rcases join_cases (p := p) hq with h | ⟨hnil | hlast, h⟩
  · rw [h, steps_append_slash]
  · rw [h, hnil]
    rfl
  · -- The slash at the end of the left side is the one between the two.
    obtain ⟨front, hfront⟩ := List.getLast?_eq_some_iff.mp hlast
    have hnone : steps [] = [] := rfl
    rw [h, hfront, List.append_assoc, List.singleton_append, steps_append_slash,
      steps_append_slash, hnone, List.append_nil]

theorem lead_join (hp : p.octets ≠ []) : (p.join q).split.1 = p.split.1 := by
  have hpath : ∀ r : Path, r = ⟨r.octets⟩ := fun r => rfl
  rcases join_cases (p := p) hq with h | ⟨hnil | hlast, h⟩
  · rw [hpath (p.join q), h, lead_append_slash, if_neg hp]
  · exact absurd hnil hp
  · obtain ⟨front, hfront⟩ := List.getLast?_eq_some_iff.mp hlast
    rw [hpath (p.join q), h, hpath p, hfront, List.append_assoc, List.singleton_append,
      lead_append_slash, lead_append_slash]

theorem isText_join_iff : (p.join q).IsText ↔ p.IsText ∧ q.IsText := by
  rw [isText_iff_steps, isText_iff_steps, isText_iff_steps, steps_join hq, List.forall_mem_append]

theorem isText_of_infix_join (hp : p.isAbsolute = true) {z : UInt8} (hz : z.toNat < 0x80)
    (hlast : q.octets.getLast? = some z) {text : String}
    (h : (p.join q).octets <:+: Utf8.encode text) : (p.join q).IsText := by
  obtain ⟨between, hoctets⟩ := join_between (p := p) hq
  have hne : q.octets ≠ [] := by
    intro hnil
    simp [hnil] at hlast
  refine Utf8.isText_of_infix (a := slash) (by decide) hz ?_ ?_ h
  · rw [hoctets, List.append_assoc, List.head?_append, beq_iff_eq.mp hp]
    rfl
  · rw [hoctets, List.getLast?_append_of_ne_nil _ hne, hlast]

end Join

end Path

end ToolBootstrap
