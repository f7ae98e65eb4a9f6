import Mathlib.Data.List.Infix
import ToolBootstrap.Text.Utf8

/- Decoding and encoding texts.

   The decoder loses nothing: its pieces spell the octets that it was given (`pieces_octets`), so a
   text that was decoded encodes to the octets it came from. In the other direction it reads every
   encoded text back. The octets of a mark stand in an encoded text only where the mark stands in
   the text itself (`infix_of_encoded`), for no scalar value starts with an octet that continues
   another. -/

namespace ToolBootstrap.Utf8

/-! ## Encoded scalar values -/

/-- The number that continuation octets add up to, after bits that are there already. -/
def gathered (bits : Nat) (tail : Bytes) : Nat :=
  tail.foldl (fun n b => n * 64 + (b.toNat - 0x80)) bits

theorem gathered_cons (bits : Nat) (b : UInt8) (rest : Bytes) :
    gathered bits (b :: rest) = gathered (bits * 64 + (b.toNat - 0x80)) rest := List.foldl_cons ..

theorem gathered_append (bits : Nat) (front back : Bytes) :
    gathered bits (front ++ back) = gathered (gathered bits front) back := List.foldl_append

def Continues (b : UInt8) : Prop := 0x80 ≤ b.toNat ∧ b.toNat ≤ 0xBF

/-- Every way in which a pending scalar value can go on ends in the octets of one. -/
def Pending.Sound (p : Pending) : Prop :=
  ∀ b tail, p.low ≤ b → b ≤ p.high → tail.length = p.owed → (∀ x ∈ tail, Continues x) →
    String.utf8EncodeChar (Char.ofNat (gathered p.bits (b :: tail))) = p.seen ++ b :: tail

theorem toNat_ofNat {v : Nat} (h : v < 0xD800 ∨ 0xDFFF < v ∧ v < 0x110000) :
    (Char.ofNat v).val.toNat = v := by
  have hv : v.isValidChar := h
  rw [Char.ofNat, dif_pos hv]
  rfl

theorem ofNat_eq {b : UInt8} {v : Nat} (h : v = b.toNat) : UInt8.ofNat v = b := by
  rw [h, UInt8.ofNat_toNat]

section Encodings

variable {n : Nat} {a b c d : UInt8}

theorem encode_two (hn : 2 ≤ n) (hn' : n < 0x20) (ha : a.toNat = 0xC0 + n) (hb : Continues b) :
    String.utf8EncodeChar (Char.ofNat (gathered n [b])) = [a, b] := by
  obtain ⟨hb, hb'⟩ := hb
  have hv : gathered n [b] = n * 64 + (b.toNat - 0x80) := rfl
  rw [String.utf8EncodeChar, toNat_ofNat (by omega)]
  rw [if_neg (by omega), if_pos (by omega)]
  rw [ofNat_eq (b := a) (by omega), ofNat_eq (b := b) (by omega)]

theorem encode_three (hn : n < 0x10) (ha : a.toNat = 0xE0 + n) (hb : Continues b)
    (hc : Continues c) (hlow : n = 0 → 0xA0 ≤ b.toNat) (hhigh : n = 0xD → b.toNat ≤ 0x9F) :
    String.utf8EncodeChar (Char.ofNat (gathered n [b, c])) = [a, b, c] := by
  obtain ⟨hb, hb'⟩ := hb
  obtain ⟨hc, hc'⟩ := hc
  have hv : gathered n [b, c] = (n * 64 + (b.toNat - 0x80)) * 64 + (c.toNat - 0x80) := rfl
  rw [String.utf8EncodeChar, toNat_ofNat (by omega)]
  rw [if_neg (by omega), if_neg (by omega), if_pos (by omega)]
  rw [ofNat_eq (b := a) (by omega), ofNat_eq (b := b) (by omega), ofNat_eq (b := c) (by omega)]

theorem encode_four (hn : n < 5) (ha : a.toNat = 0xF0 + n) (hb : Continues b) (hc : Continues c)
    (hd : Continues d) (hlow : n = 0 → 0x90 ≤ b.toNat) (hhigh : n = 4 → b.toNat ≤ 0x8F) :
    String.utf8EncodeChar (Char.ofNat (gathered n [b, c, d])) = [a, b, c, d] := by
  obtain ⟨hb, hb'⟩ := hb
  obtain ⟨hc, hc'⟩ := hc
  obtain ⟨hd, hd'⟩ := hd
  have hv : gathered n [b, c, d] =
      ((n * 64 + (b.toNat - 0x80)) * 64 + (c.toNat - 0x80)) * 64 + (d.toNat - 0x80) := rfl
  rw [String.utf8EncodeChar, toNat_ofNat (by omega)]
  rw [if_neg (by omega), if_neg (by omega), if_neg (by omega)]
  rw [ofNat_eq (b := a) (by omega), ofNat_eq (b := b) (by omega), ofNat_eq (b := c) (by omega),
    ofNat_eq (b := d) (by omega)]

end Encodings

/-! ## The decoder loses nothing -/

/-- The octets that a piece was read from. -/
def Piece.octets : Piece → Bytes
  | .scalar c => String.utf8EncodeChar c
  | .broken octets => octets

def held : Option Pending → Bytes
  | none => []
  | some p => p.seen

theorem continues_of_le {b low high : UInt8} (hlow : low ≤ b) (hhigh : b ≤ high)
    (hl : 0x80 ≤ low.toNat) (hh : high.toNat ≤ 0xBF) : Continues b :=
  ⟨Nat.le_trans hl (UInt8.le_iff_toNat_le.mp hlow),
    Nat.le_trans (UInt8.le_iff_toNat_le.mp hhigh) hh⟩

theorem sound_two {n : Nat} {a : UInt8} (hn : 2 ≤ n) (hn' : n < 0x20) (ha : a.toNat = 0xC0 + n) :
    Pending.Sound ⟨[a], n, 0, 0x80, 0xBF⟩ := by
  intro b tail hlow hhigh hlen _
  obtain rfl := List.length_eq_zero_iff.mp hlen
  have hb : Continues b := continues_of_le hlow hhigh (Nat.le_refl 0x80) (Nat.le_refl 0xBF)
  exact encode_two hn hn' ha hb

theorem sound_three {n : Nat} {a low high : UInt8} (hn : n < 0x10) (ha : a.toNat = 0xE0 + n)
    (hl : 0x80 ≤ low.toNat) (hh : high.toNat ≤ 0xBF) (hlow : n = 0 → 0xA0 ≤ low.toNat)
    (hhigh : n = 0xD → high.toNat ≤ 0x9F) : Pending.Sound ⟨[a], n, 1, low, high⟩ := by
  intro b tail hlb hbh hlen hrest
  obtain ⟨c, rfl⟩ := List.length_eq_one_iff.mp hlen
  have hc := hrest c (by simp)
  have hlb' := UInt8.le_iff_toNat_le.mp hlb
  have hbh' := UInt8.le_iff_toNat_le.mp hbh
  exact encode_three hn ha (continues_of_le hlb hbh hl hh) hc
    (fun h => Nat.le_trans (hlow h) hlb') (fun h => Nat.le_trans hbh' (hhigh h))

theorem sound_four {n : Nat} {a low high : UInt8} (hn : n < 5) (ha : a.toNat = 0xF0 + n)
    (hl : 0x80 ≤ low.toNat) (hh : high.toNat ≤ 0xBF) (hlow : n = 0 → 0x90 ≤ low.toNat)
    (hhigh : n = 4 → high.toNat ≤ 0x8F) : Pending.Sound ⟨[a], n, 2, low, high⟩ := by
  intro b tail hlb hbh hlen hrest
  obtain ⟨c, d, rfl⟩ := List.length_eq_two.mp hlen
  have hc := hrest c (by simp)
  have hd := hrest d (by simp)
  have hlb' := UInt8.le_iff_toNat_le.mp hlb
  have hbh' := UInt8.le_iff_toNat_le.mp hbh
  exact encode_four hn ha (continues_of_le hlb hbh hl hh) hc hd
    (fun h => Nat.le_trans (hlow h) hlb') (fun h => Nat.le_trans hbh' (hhigh h))

/-- What a first octet starts, by its number. -/
theorem start_eq (b : UInt8) : start b =
    if b.toNat ≤ 0x7F then ([.scalar (Char.ofNat b.toNat)], none)
    else if 0xC2 ≤ b.toNat ∧ b.toNat ≤ 0xDF then ([], some ⟨[b], b.toNat - 0xC0, 0, 0x80, 0xBF⟩)
    else if b.toNat = 0xE0 then ([], some ⟨[b], 0, 1, 0xA0, 0xBF⟩)
    else if b.toNat = 0xED then ([], some ⟨[b], 0xD, 1, 0x80, 0x9F⟩)
    else if 0xE1 ≤ b.toNat ∧ b.toNat ≤ 0xEF then ([], some ⟨[b], b.toNat - 0xE0, 1, 0x80, 0xBF⟩)
    else if b.toNat = 0xF0 then ([], some ⟨[b], 0, 2, 0x90, 0xBF⟩)
    else if 0xF1 ≤ b.toNat ∧ b.toNat ≤ 0xF3 then ([], some ⟨[b], b.toNat - 0xF0, 2, 0x80, 0xBF⟩)
    else if b.toNat = 0xF4 then ([], some ⟨[b], 4, 2, 0x80, 0x8F⟩)
    else ([.broken [b]], none) := by
  simp only [start, UInt8.le_iff_toNat_le, ← UInt8.toNat_inj, UInt8.reduceToNat]

/-- What a first octet leaves pending is sound. -/
theorem start_sound {b : UInt8} {p : Pending} (h : (start b).2 = some p) : p.Sound := by
  have hb := b.toNat_lt
  rw [start_eq] at h
  -- One case for each range of first octets, in the order of the definition.
  split at h
  · cases h
  split at h
  · cases h
    exact sound_two (by omega) (by omega) (by omega)
  split at h
  · cases h
    exact sound_three (by omega) (by omega) (by decide) (by decide) (fun _ => by decide) (by omega)
  split at h
  · cases h
    exact sound_three (by omega) (by omega) (by decide) (by decide) (by omega) (fun _ => by decide)
  split at h
  · cases h
    exact sound_three (by omega) (by omega) (by decide) (by decide) (by omega) (by omega)
  split at h
  · cases h
    exact sound_four (by omega) (by omega) (by decide) (by decide) (fun _ => by decide) (by omega)
  split at h
  · cases h
    exact sound_four (by omega) (by omega) (by decide) (by decide) (by omega) (by omega)
  split at h
  · cases h
    exact sound_four (by omega) (by omega) (by decide) (by decide) (by omega) (fun _ => by decide)
  · cases h

/-- A scalar value that one octet completes leaves nothing pending; otherwise it stays sound. -/
theorem step_sound {pending : Option Pending} {b : UInt8} {p : Pending}
    (hs : ∀ q, pending = some q → q.Sound) (h : (step pending b).2 = some p) : p.Sound := by
  cases pending with
  | none => exact start_sound h
  | some q =>
    obtain ⟨seen, bits, owed, low, high⟩ := q
    simp only [step] at h
    split at h
    · rename_i hb
      cases owed with
      | zero => cases h
      | succ owed =>
        obtain rfl := Option.some.inj h
        intro c tail hc hc' hlen hrest
        have hlen' : (c :: tail).length = owed + 1 := congrArg (· + 1) hlen
        have hcont : Continues c := continues_of_le hc hc' (Nat.le_refl 0x80) (Nat.le_refl 0xBF)
        have hq := hs _ rfl b (c :: tail) hb.1 hb.2 hlen' (List.forall_mem_cons.mpr ⟨hcont, hrest⟩)
        rw [gathered_cons] at hq
        rw [hq, List.append_assoc]
        rfl
    · exact start_sound h

theorem start_octets (b : UInt8) :
    (start b).1.flatMap Piece.octets ++ held (start b).2 = [b] := by
  have hb := b.toNat_lt
  have hone : b ≤ 0x7F → String.utf8EncodeChar (Char.ofNat b.toNat) = [b] := by
    intro h
    have hb7 := UInt8.le_iff_toNat_le.mp h
    have hle : b.toNat ≤ 0x7F := hb7
    rw [String.utf8EncodeChar, toNat_ofNat (by omega), if_pos hle, ofNat_eq rfl]
  unfold start
  split
  · rename_i h
    simp [Piece.octets, held, hone h]
  · repeat' split
    all_goals simp [Piece.octets, held]

theorem step_octets {pending : Option Pending} (b : UInt8)
    (hs : ∀ q, pending = some q → q.Sound) :
    (step pending b).1.flatMap Piece.octets ++ held (step pending b).2 = held pending ++ [b] := by
  cases pending with
  | none => exact start_octets b
  | some q =>
    obtain ⟨seen, bits, owed, low, high⟩ := q
    simp only [step]
    split
    · rename_i hb
      cases owed with
      | zero =>
        have hq := hs _ rfl b [] hb.1 hb.2 rfl (fun _ h => absurd h List.not_mem_nil)
        rw [gathered_cons] at hq
        simp only [List.flatMap_cons, List.flatMap_nil, Piece.octets, held, List.append_nil]
        exact hq
      | succ owed => simp [held]
    · rw [List.flatMap_cons, List.append_assoc, start_octets]
      rfl

theorem piecesFrom_octets (pending : Option Pending) (octets : Bytes)
    (hs : ∀ q, pending = some q → q.Sound) :
    (piecesFrom pending octets).flatMap Piece.octets = held pending ++ octets := by
  induction octets generalizing pending with
  | nil => cases pending <;> simp [piecesFrom, Piece.octets, held]
  | cons b rest ih =>
    rw [piecesFrom, List.flatMap_append, ih _ (fun q => step_sound hs), ← List.append_assoc,
      step_octets b hs, List.append_assoc]
    rfl

theorem pieces_octets (octets : Bytes) : (pieces octets).flatMap Piece.octets = octets :=
  piecesFrom_octets none octets (fun _ h => by cases h)

/-! ## Decoding -/

theorem mapM_scalar_iff (parts : List Piece) (cs : List Char) :
    parts.mapM (fun | .scalar c => some c | .broken _ => none) = some cs ↔
      parts = cs.map Piece.scalar := by
  induction parts generalizing cs with
  | nil => cases cs <;> simp
  | cons part rest ih =>
    cases part with
    | broken octets => cases cs <;> simp
    | scalar c =>
      cases cs with
      | nil => simp [Option.bind_eq_some_iff]
      | cons d ds =>
        simp only [List.mapM_cons, Option.bind_eq_bind, Option.bind_some, Option.pure_def,
          Option.bind_eq_some_iff, ih, List.map_cons, List.cons.injEq, Option.some.injEq,
          Piece.scalar.injEq]
        constructor
        · intro ⟨_, he, he', he''⟩
          subst he
          subst he'
          subst he''
          exact ⟨rfl, rfl⟩
        · intro ⟨he, he'⟩
          subst he
          subst he'
          exact ⟨ds, rfl, rfl, rfl⟩

theorem decode?_eq_some_iff {octets : Bytes} {text : String} :
    decode? octets = some text ↔ pieces octets = text.toList.map Piece.scalar := by
  unfold decode?
  rw [← mapM_scalar_iff, Option.map_eq_some_iff]
  constructor
  · intro ⟨cs, hcs, he⟩
    subst he
    rw [String.toList_ofList]
    exact hcs
  · exact fun h => ⟨text.toList, h, String.ofList_toList⟩

theorem encode_of_decode? {octets : Bytes} {text : String} (h : decode? octets = some text) :
    encode text = octets := by
  rw [← pieces_octets octets, decode?_eq_some_iff.mp h, List.flatMap_map]
  rfl

/-! ## Encoded texts are read back -/

theorem le_of_toNat {a b : UInt8} (h : a.toNat ≤ b.toNat) : a ≤ b := UInt8.le_iff_toNat_le.mpr h

theorem piecesFrom_continue {seen : Bytes} {bits owed : Nat} {low high b : UInt8} (rest : Bytes)
    (hlow : low.toNat ≤ b.toNat) (hhigh : b.toNat ≤ high.toNat) :
    piecesFrom (some ⟨seen, bits, owed + 1, low, high⟩) (b :: rest) =
      piecesFrom (some ⟨seen ++ [b], gathered bits [b], owed, 0x80, 0xBF⟩) rest := by
  rw [piecesFrom, step, if_pos ⟨le_of_toNat hlow, le_of_toNat hhigh⟩]
  rfl

theorem piecesFrom_complete {seen : Bytes} {bits : Nat} {low high b : UInt8} (rest : Bytes)
    (hlow : low.toNat ≤ b.toNat) (hhigh : b.toNat ≤ high.toNat) :
    piecesFrom (some ⟨seen, bits, 0, low, high⟩) (b :: rest) =
      .scalar (Char.ofNat (gathered bits [b])) :: piecesFrom none rest := by
  rw [piecesFrom, step, if_pos ⟨le_of_toNat hlow, le_of_toNat hhigh⟩]
  rfl

theorem start_one {a : UInt8} (ha : a.toNat ≤ 0x7F) :
    start a = ([.scalar (Char.ofNat a.toNat)], none) := if_pos (le_of_toNat ha)

theorem start_two {n : Nat} {a : UInt8} (hn : 2 ≤ n) (hn' : n < 0x20) (ha : a.toNat = 0xC0 + n) :
    start a = ([], some ⟨[a], n, 0, 0x80, 0xBF⟩) := by
  rw [start_eq, if_neg (by omega), if_pos (by omega), show a.toNat - 0xC0 = n by omega]

theorem start_three {n : Nat} {a : UInt8} (hn : n < 0x10) (ha : a.toNat = 0xE0 + n) :
    start a = ([], some
      ⟨[a], n, 1, if n = 0 then 0xA0 else 0x80, if n = 0xD then 0x9F else 0xBF⟩) := by
  rw [start_eq, if_neg (by omega), if_neg (by omega)]
  split
  · rw [show n = 0 by omega]
    rfl
  split
  · rw [show n = 0xD by omega]
    rfl
  rw [if_pos (by omega), if_neg (by omega), if_neg (by omega), show a.toNat - 0xE0 = n by omega]

theorem start_four {n : Nat} {a : UInt8} (hn : n < 5) (ha : a.toNat = 0xF0 + n) :
    start a = ([], some
      ⟨[a], n, 2, if n = 0 then 0x90 else 0x80, if n = 4 then 0x8F else 0xBF⟩) := by
  rw [start_eq, if_neg (by omega), if_neg (by omega), if_neg (by omega), if_neg (by omega),
    if_neg (by omega)]
  split
  · rw [show n = 0 by omega]
    rfl
  split
  · rw [if_neg (by omega), if_neg (by omega), show a.toNat - 0xF0 = n by omega]
  · rw [if_pos (by omega), show n = 4 by omega]
    rfl

theorem piecesFrom_none_cons (a : UInt8) (rest : Bytes) :
    piecesFrom none (a :: rest) = (start a).1 ++ piecesFrom (start a).2 rest := rfl

theorem toNat_ofNat_lt {v : Nat} (h : v < 0x100) : (UInt8.ofNat v).toNat = v := by
  rw [UInt8.toNat_ofNat', Nat.mod_eq_of_lt h]

theorem ite_toNat_le {p : Prop} [Decidable p] {a b : UInt8} {v : Nat} (ha : p → a.toNat ≤ v)
    (hb : b.toNat ≤ v) : (if p then a else b).toNat ≤ v := by
  split
  · exact ha ‹p›
  · exact hb

theorem le_ite_toNat {p : Prop} [Decidable p] {a b : UInt8} {v : Nat} (ha : p → v ≤ a.toNat)
    (hb : v ≤ b.toNat) : v ≤ (if p then a else b).toNat := by
  split
  · exact ha ‹p›
  · exact hb

section Sequences

variable {n : Nat} {a b c d : UInt8} (rest : Bytes)

theorem Continues.window (hb : Continues b) :
    (0x80 : UInt8).toNat ≤ b.toNat ∧ b.toNat ≤ (0xBF : UInt8).toNat := by
  simp only [UInt8.reduceToNat]
  exact hb

theorem pieces_two (hn : 2 ≤ n) (hn' : n < 0x20) (ha : a.toNat = 0xC0 + n) (hb : Continues b) :
    piecesFrom none (a :: b :: rest) =
      .scalar (Char.ofNat (gathered n [b])) :: piecesFrom none rest := by
  rw [piecesFrom_none_cons, start_two hn hn' ha, List.nil_append,
    piecesFrom_complete rest hb.window.1 hb.window.2]

theorem pieces_three (hn : n < 0x10) (ha : a.toNat = 0xE0 + n) (hb : Continues b)
    (hc : Continues c) (hlow : n = 0 → 0xA0 ≤ b.toNat) (hhigh : n = 0xD → b.toNat ≤ 0x9F) :
    piecesFrom none (a :: b :: c :: rest) =
      .scalar (Char.ofNat (gathered n [b, c])) :: piecesFrom none rest := by
  have hlow' := ite_toNat_le (a := 0xA0) hlow hb.window.1
  have hhigh' := le_ite_toNat (a := 0x9F) hhigh hb.window.2
  rw [piecesFrom_none_cons, start_three hn ha, List.nil_append, piecesFrom_continue _ hlow' hhigh',
    piecesFrom_complete rest hc.window.1 hc.window.2, ← gathered_append]
  rfl

theorem pieces_four (hn : n < 5) (ha : a.toNat = 0xF0 + n) (hb : Continues b) (hc : Continues c)
    (hd : Continues d) (hlow : n = 0 → 0x90 ≤ b.toNat) (hhigh : n = 4 → b.toNat ≤ 0x8F) :
    piecesFrom none (a :: b :: c :: d :: rest) =
      .scalar (Char.ofNat (gathered n [b, c, d])) :: piecesFrom none rest := by
  have hlow' := ite_toNat_le (a := 0x90) hlow hb.window.1
  have hhigh' := le_ite_toNat (a := 0x8F) hhigh hb.window.2
  rw [piecesFrom_none_cons, start_four hn ha, List.nil_append, piecesFrom_continue _ hlow' hhigh',
    piecesFrom_continue _ hc.window.1 hc.window.2,
    piecesFrom_complete rest hd.window.1 hd.window.2, ← gathered_append, ← gathered_append]
  rfl

end Sequences

theorem continuation (v : Nat) :
    (UInt8.ofNat (v % 0x40 + 0x80)).toNat = v % 0x40 + 0x80 ∧
      Continues (UInt8.ofNat (v % 0x40 + 0x80)) := by
  have h := toNat_ofNat_lt (v := v % 0x40 + 0x80) (by omega)
  exact ⟨h, by omega, by omega⟩

/-- The decoder reads an encoded scalar value, whatever comes after it. -/
theorem piecesFrom_encode_char (c : Char) (rest : Bytes) :
    piecesFrom none (String.utf8EncodeChar c ++ rest) = .scalar c :: piecesFrom none rest := by
  have hvalid : c.val.toNat < 0xD800 ∨ 0xDFFF < c.val.toNat ∧ c.val.toNat < 0x110000 := c.valid
  have hchar : Char.ofNat c.val.toNat = c := Char.ofNat_toNat c
  rw [String.utf8EncodeChar]
  generalize c.val.toNat = v at hvalid hchar
  -- In each case the bits that the octets carry are put together again.
  split
  · have ha := toNat_ofNat_lt (v := v) (by omega)
    rw [List.singleton_append, piecesFrom_none_cons, start_one (by omega), ha, hchar]
    rfl
  split
  · have ha := toNat_ofNat_lt (v := v / 64 % 0x20 + 0xc0) (by omega)
    obtain ⟨hb, hb'⟩ := continuation v
    refine (pieces_two rest (n := v / 64 % 0x20) (by omega) (by omega) (by omega) hb').trans ?_
    rw [show gathered _ _ = v by simp only [gathered, List.foldl_cons, List.foldl_nil, hb]; omega,
      hchar]
  split
  · have ha := toNat_ofNat_lt (v := v / 4096 % 0x10 + 0xe0) (by omega)
    obtain ⟨hb, hb'⟩ := continuation (v / 64)
    obtain ⟨hc, hc'⟩ := continuation v
    refine (pieces_three rest (n := v / 4096 % 0x10) (by omega) (by omega) hb' hc'
      (by omega) (by omega)).trans ?_
    rw [show gathered _ _ = v by
      simp only [gathered, List.foldl_cons, List.foldl_nil, hb, hc]; omega, hchar]
  · have ha := toNat_ofNat_lt (v := v / 262144 % 0x08 + 0xf0) (by omega)
    obtain ⟨hb, hb'⟩ := continuation (v / 4096)
    obtain ⟨hc, hc'⟩ := continuation (v / 64)
    obtain ⟨hd, hd'⟩ := continuation v
    refine (pieces_four rest (n := v / 262144 % 0x08) (by omega) (by omega) hb' hc' hd'
      (by omega) (by omega)).trans ?_
    rw [show gathered _ _ = v by
      simp only [gathered, List.foldl_cons, List.foldl_nil, hb, hc, hd]; omega, hchar]

theorem encodeChars_cons (c : Char) (cs : List Char) :
    encodeChars (c :: cs) = String.utf8EncodeChar c ++ encodeChars cs := List.flatMap_cons

theorem pieces_encodeChars_append (cs : List Char) (rest : Bytes) :
    pieces (encodeChars cs ++ rest) = cs.map Piece.scalar ++ pieces rest := by
  induction cs with
  | nil => rfl
  | cons c cs ih =>
    rw [encodeChars_cons, List.append_assoc, pieces, piecesFrom_encode_char, List.map_cons,
      List.cons_append, ← ih]
    rfl

theorem pieces_encodeChars (cs : List Char) : pieces (encodeChars cs) = cs.map Piece.scalar := by
  have h := pieces_encodeChars_append cs []
  rwa [List.append_nil, show pieces [] = [] from rfl, List.append_nil] at h

/-- An encoded text is read back. -/
theorem decode?_encode (text : String) : decode? (encode text) = some text :=
  decode?_eq_some_iff.mpr (pieces_encodeChars text.toList)

/-! ## Searching encoded texts -/

theorem infix_encode {mark text : List Char} (h : mark <:+: text) :
    encodeChars mark <:+: encodeChars text := by
  obtain ⟨before, after, rfl⟩ := h
  exact ⟨encodeChars before, encodeChars after, by simp⟩

theorem encodeChars_injective {s t : List Char} (h : encodeChars s = encodeChars t) : s = t := by
  have hp := pieces_encodeChars s
  rw [h, pieces_encodeChars t] at hp
  exact (List.map_injective_iff.mpr fun _ _ hc => Piece.scalar.inj hc) hp.symm

/-- All octets of a scalar value but the first one continue it, and the first one is below 128 only
if it is alone. -/
theorem encode_char_head (c : Char) : ∃ first rest, String.utf8EncodeChar c = first :: rest ∧
    ¬ Continues first ∧ (∀ b ∈ rest, Continues b) ∧ (rest = [] ∨ 0x80 ≤ first.toNat) := by
  have hvalid : c.val.toNat < 0xD800 ∨ 0xDFFF < c.val.toNat ∧ c.val.toNat < 0x110000 := c.valid
  rw [String.utf8EncodeChar]
  generalize c.val.toNat = v at hvalid
  have hrest : ∀ x, Continues (UInt8.ofNat (x % 0x40 + 0x80)) := fun x => (continuation x).2
  split
  · have ha := toNat_ofNat_lt (v := v) (by omega)
    exact ⟨_, [], rfl, by rw [Continues]; omega, nofun, Or.inl rfl⟩
  split
  · have ha := toNat_ofNat_lt (v := v / 64 % 0x20 + 0xc0) (by omega)
    refine ⟨_, _, rfl, by rw [Continues]; omega, ?_, Or.inr (by omega)⟩
    simp only [List.forall_mem_cons, List.not_mem_nil, false_implies, implies_true, and_true]
    exact hrest _
  split
  · have ha := toNat_ofNat_lt (v := v / 4096 % 0x10 + 0xe0) (by omega)
    refine ⟨_, _, rfl, by rw [Continues]; omega, ?_, Or.inr (by omega)⟩
    simp only [List.forall_mem_cons, List.not_mem_nil, false_implies, implies_true, and_true]
    exact ⟨hrest _, hrest _⟩
  · have ha := toNat_ofNat_lt (v := v / 262144 % 0x08 + 0xf0) (by omega)
    refine ⟨_, _, rfl, by rw [Continues]; omega, ?_, Or.inr (by omega)⟩
    simp only [List.forall_mem_cons, List.not_mem_nil, false_implies, implies_true, and_true]
    exact ⟨hrest _, hrest _, hrest _⟩

theorem encode_char_cases (c : Char) :
    (∃ a, String.utf8EncodeChar c = [a]) ∨ ∀ b ∈ String.utf8EncodeChar c, 0x80 ≤ b.toNat := by
  obtain ⟨first, rest, hc, -, hrest, rfl | hfirst⟩ := encode_char_head c
  · exact Or.inl ⟨first, hc⟩
  · rw [hc]
    exact Or.inr (List.forall_mem_cons.mpr ⟨hfirst, fun b hb => (hrest b hb).1⟩)

/-- An octet below 128 in an encoded text is a character of its own. -/
theorem encodeChars_split {cs : List Char} {a : UInt8} {front back : Bytes} (ha : a.toNat < 0x80)
    (h : encodeChars cs = front ++ a :: back) :
    ∃ s c t, cs = s ++ c :: t ∧ encodeChars s = front ∧ String.utf8EncodeChar c = [a] ∧
      encodeChars t = back := by
  induction cs generalizing front with
  | nil => simp at h
  | cons c cs ih =>
    rw [encodeChars, List.flatMap_cons] at h
    have hinner : ∀ inner, encodeChars cs = inner ++ a :: back →
        String.utf8EncodeChar c ++ inner = front →
        ∃ s c' t, c :: cs = s ++ c' :: t ∧ encodeChars s = front ∧
          String.utf8EncodeChar c' = [a] ∧ encodeChars t = back := by
      intro inner hcs hfront
      obtain ⟨s, c', t, rfl, hs, hc', ht⟩ := ih hcs
      refine ⟨c :: s, c', t, rfl, ?_, hc', ht⟩
      rw [← hfront, ← hs]
      rfl
    rcases List.append_eq_append_iff.mp h with ⟨inner, hfront, hcs⟩ | ⟨outer, hc, hback⟩
    · exact hinner inner hcs hfront.symm
    · cases outer with
      | nil => exact hinner [] hback.symm (by rw [hc, List.append_nil, List.append_nil])
      | cons b outer =>
        obtain ⟨rfl, hrest⟩ := List.cons_eq_cons.mp hback
        rcases encode_char_cases c with ⟨one, hone⟩ | hmany
        · rw [hone] at hc
          have hfront : front = [] := by
            cases front with
            | nil => rfl
            | cons x xs => simp at hc
          subst hfront
          obtain ⟨hab, rfl⟩ := List.cons_eq_cons.mp hc
          exact ⟨[], c, cs, rfl, rfl, by rw [hone, hab], hrest.symm⟩
        · have hb := hmany a (by rw [hc]; simp)
          omega

theorem encode_char_ascii {c : Char} (h : c.toNat < 0x80) :
    String.utf8EncodeChar c = [UInt8.ofNat c.toNat] := by
  rw [String.utf8EncodeChar, if_pos (show c.val.toNat ≤ 0x7F from Nat.le_of_lt_succ h)]
  rfl

theorem prefix_of_encoded {mark text : List Char} (h : encodeChars mark <+: encodeChars text) :
    mark <+: text := by
  obtain ⟨after, hafter⟩ := h
  have hpieces : mark.map Piece.scalar <+: text.map Piece.scalar := by
    rw [← pieces_encodeChars text, ← hafter, pieces_encodeChars_append]
    exact List.prefix_append _ _
  exact (List.prefix_map_iff_of_injective fun _ _ hc => Piece.scalar.inj hc).mp hpieces

/-- Octets of a mark in an encoded text are the mark in the text. -/
theorem infix_of_encoded {mark text : List Char}
    (h : encodeChars mark <:+: encodeChars text) : mark <:+: text := by
  cases mark with
  | nil => exact List.nil_infix
  | cons m mark =>
    obtain ⟨before, after, hafter⟩ := h
    rw [List.append_assoc] at hafter
    induction text generalizing before with
    | nil =>
      obtain ⟨first, rest, hm, -, -⟩ := encode_char_head m
      simp [encodeChars, hm] at hafter
    | cons c text ih =>
      rw [encodeChars_cons c text] at hafter
      rcases List.append_eq_append_iff.mp hafter with ⟨outer, hc, hrest⟩ | ⟨inner, hbefore, hrest⟩
      · cases before with
        | nil =>
          refine (prefix_of_encoded ⟨after, ?_⟩).isInfix
          rw [encodeChars_cons c text]
          exact hafter
        | cons b before =>
          cases outer with
          | nil => exact List.infix_cons (ih [] hrest)
          | cons first outer =>
            -- The mark would start with an octet that continues `c`.
            obtain ⟨start, others, hm, hstart, -⟩ := encode_char_head m
            obtain ⟨start', others', hc', -, hothers, -⟩ := encode_char_head c
            rw [encodeChars_cons, hm] at hrest
            obtain ⟨rfl, -⟩ := List.cons_eq_cons.mp hrest
            rw [hc'] at hc
            obtain ⟨-, rfl⟩ := List.cons_eq_cons.mp hc
            exact absurd (hothers start (by simp)) hstart
      · exact List.infix_cons (ih inner hrest.symm)

theorem infix_encode_iff {mark text : String} :
    encode mark <:+: encode text ↔ mark.toList <:+: text.toList :=
  ⟨infix_of_encoded, infix_encode⟩

end ToolBootstrap.Utf8
