import ToolBootstrap.Proofs.LineFile
import ToolBootstrap.Proofs.PathText

/- What an export line tells of its directories.

   Between its front and its end the line holds the directories as they are shown, with one octet
   between them: a colon where it is quoted, and a space where it is not (`encode_exportLine`). So
   it tells the parts between these octets and nothing more. No entry of a search path holds a
   colon, and the quoted line determines its directories. A name with a space in it is not told
   apart from two names (`exportLine_determines`). -/

namespace ToolBootstrap

/-! ## Joined parts -/

theorem splitOn_intercalate_flatMap (sep : UInt8) {parts : List Bytes} (hne : parts ≠ []) :
    ([sep].intercalate parts).splitOn sep = parts.flatMap (List.splitOn sep) := by
  induction parts with
  | nil => exact absurd rfl hne
  | cons part rest ih =>
    cases rest with
    | nil => simp
    | cons next others =>
      rw [List.intercalate_cons_cons, List.append_assoc, List.singleton_append,
        List.splitOn_append_cons_self, ih (List.cons_ne_nil next others)]
      rfl

theorem intercalate_eq_iff (sep : UInt8) {parts parts' : List Bytes} (hne : parts ≠ [])
    (hne' : parts' ≠ []) : [sep].intercalate parts = [sep].intercalate parts' ↔
      parts.flatMap (List.splitOn sep) = parts'.flatMap (List.splitOn sep) := by
  rw [← splitOn_intercalate_flatMap sep hne, ← splitOn_intercalate_flatMap sep hne']
  constructor
  · intro h
    rw [h]
  · intro h
    have hjoin : ∀ octets : Bytes, [sep].intercalate (octets.splitOn sep) = octets :=
      fun _ => List.intercalate_splitOn sep
    calc [sep].intercalate parts
        = [sep].intercalate (([sep].intercalate parts).splitOn sep) := (hjoin _).symm
      _ = [sep].intercalate (([sep].intercalate parts').splitOn sep) := by rw [h]
      _ = [sep].intercalate parts' := hjoin _

theorem encode_intercalate (separator : String) (texts : List String) :
    Utf8.encode (separator.intercalate texts) =
      (Utf8.encode separator).intercalate (texts.map Utf8.encode) := by
  induction texts with
  | nil => rfl
  | cons text rest ih =>
    cases rest with
    | nil => simp
    | cons next others =>
      rw [String.intercalate_cons_cons, Utf8.encode_append, Utf8.encode_append, ih]
      exact List.intercalate_cons_cons.symm

namespace Shell

/-! ## The line -/

def space : UInt8 := 0x20

/-- What an export line puts between two directories. -/
def separator : Shell → UInt8
  | .zsh | .bash => colon
  | .fish => space

theorem separator_of_quoted {shell : Shell} (hquoted : shell ≠ .fish) :
    shell.separator = colon := by
  cases shell with
  | zsh | bash => rfl
  | fish => exact absurd rfl hquoted

def exportFront : Shell → String
  | .zsh | .bash => "export PATH=\"$PATH:"
  | .fish => "set -gx PATH $PATH "

def exportEnd : Shell → String
  | .zsh | .bash => "\""
  | .fish => ""

theorem exportLine_eq (shell : Shell) (dirs : List Path) : shell.exportLine dirs =
    shell.exportFront ++ (String.singleton (Char.ofNat shell.separator.toNat)).intercalate
      (dirs.map Path.display) ++ shell.exportEnd := by
  cases shell with
  | zsh | bash => rfl
  | fish => exact String.append_empty.symm

theorem encode_exportLine (shell : Shell) (dirs : List Path) :
    Utf8.encode (shell.exportLine dirs) = Utf8.encode shell.exportFront ++
      [shell.separator].intercalate (dirs.map fun dir => Utf8.encode dir.display) ++
      Utf8.encode shell.exportEnd := by
  have hseparator : Utf8.encode (String.singleton (Char.ofNat shell.separator.toNat)) =
      [shell.separator] := by
    cases shell <;> decide +kernel
  rw [exportLine_eq, Utf8.encode_append, Utf8.encode_append, encode_intercalate, hseparator,
    List.map_map]
  rfl

/-- Directories that can be entries of a written search path, and at least one. -/
structure Entries (dirs : List Path) : Prop where
  nonempty : dirs ≠ []
  text : ∀ dir ∈ dirs, dir.IsText
  named : ∀ dir ∈ dirs, dir.octets ≠ []
  free : ∀ dir ∈ dirs, colon ∉ dir.octets

instance (dirs : List Path) : Decidable (Entries dirs) :=
  decidable_of_iff (dirs ≠ [] ∧ (∀ dir ∈ dirs, dir.IsText) ∧ (∀ dir ∈ dirs, dir.octets ≠ []) ∧
      ∀ dir ∈ dirs, colon ∉ dir.octets)
    ⟨fun h => ⟨h.1, h.2.1, h.2.2.1, h.2.2.2⟩, fun h => ⟨h.nonempty, h.text, h.named, h.free⟩⟩

/-- The parts between the separators of an export line. -/
def words (shell : Shell) (dirs : List Path) : List Bytes :=
  dirs.flatMap fun dir => dir.octets.splitOn shell.separator

section Lines

variable {shell : Shell} {dirs dirs' : List Path}

theorem exportLine_eq_iff_joined (h : Entries dirs) (h' : Entries dirs') :
    shell.exportLine dirs = shell.exportLine dirs' ↔
      [shell.separator].intercalate (dirs.map Path.octets) =
        [shell.separator].intercalate (dirs'.map Path.octets) := by
  have hshown : ∀ {dirs}, Entries dirs →
      dirs.map (fun dir => Utf8.encode dir.display) = dirs.map Path.octets :=
    fun h => List.map_congr_left fun dir hdir => (Path.encode_display_iff dir).mpr (h.text dir hdir)
  constructor
  · intro heq
    have hencoded := congrArg Utf8.encode heq
    rwa [encode_exportLine, encode_exportLine, hshown h, hshown h', List.append_left_inj,
      List.append_right_inj] at hencoded
  · intro hjoined
    apply Utf8.encode_injective
    rw [encode_exportLine, encode_exportLine, hshown h, hshown h', hjoined]

theorem octets_injective : Function.Injective Path.octets := fun _ _ h => congrArg Path.mk h

theorem exportLine_eq_iff_words (h : Entries dirs) (h' : Entries dirs') :
    shell.exportLine dirs = shell.exportLine dirs' ↔ shell.words dirs = shell.words dirs' := by
  have hnil : ∀ {dirs}, Entries dirs → dirs.map Path.octets ≠ [] :=
    fun h => by simpa using h.nonempty
  rw [exportLine_eq_iff_joined h h', intercalate_eq_iff _ (hnil h) (hnil h'), List.flatMap_map,
    List.flatMap_map]
  rfl

theorem words_of_free (h : ∀ dir ∈ dirs, shell.separator ∉ dir.octets) :
    shell.words dirs = dirs.map Path.octets := by
  have hword : ∀ dir ∈ dirs, dir.octets.splitOn shell.separator = [dir.octets] :=
    fun dir hdir => List.splitOn_eq_singleton (h dir hdir)
  rw [words, List.flatMap_congr hword, List.map_eq_flatMap]

theorem eq_of_exportLine_of_free (h : Entries dirs) (h' : Entries dirs')
    (hfree : ∀ dir ∈ dirs, shell.separator ∉ dir.octets)
    (hfree' : ∀ dir ∈ dirs', shell.separator ∉ dir.octets)
    (heq : shell.exportLine dirs = shell.exportLine dirs') : dirs = dirs' := by
  have hwords := (exportLine_eq_iff_words h h').mp heq
  rw [words_of_free hfree, words_of_free hfree'] at hwords
  exact List.map_injective_iff.mpr octets_injective hwords

end Lines

/-! ## Names with a space -/

/-- Octets with a space between other octets. -/
def Divided (octets : Bytes) : Prop :=
  ∃ front back, front ≠ [] ∧ back ≠ [] ∧ octets = front ++ space :: back

/-- The one directory whose name is made of the names of many, with a space between them. -/
def merged (dirs : List Path) : Path := ⟨[space].intercalate (dirs.map Path.octets)⟩

theorem entries_of_divided {front back : Bytes} (h : Entries [⟨front ++ space :: back⟩])
    (hfront : front ≠ []) (hback : back ≠ []) : Entries [⟨front⟩, ⟨back⟩] := by
  obtain ⟨hfrontText, hbackText⟩ :=
    (Utf8.isText_append_iff (by decide) front back).mp (h.text _ List.mem_cons_self)
  have hfree := h.free _ List.mem_cons_self
  refine ⟨List.cons_ne_nil _ _, ?_, ?_, ?_⟩ <;> rw [List.forall_mem_cons, List.forall_mem_singleton]
  · exact ⟨hfrontText, hbackText⟩
  · exact ⟨hfront, hback⟩
  · exact ⟨fun hin => hfree (List.mem_append_left _ hin),
      fun hin => hfree (List.mem_append_right _ (List.mem_cons_of_mem _ hin))⟩

section Spaces

variable {dirs : List Path} (h : Entries dirs)
include h

theorem divided_merged {first next : Path} {others : List Path}
    (hdirs : dirs = first :: next :: others) : Divided (merged dirs).octets := by
  subst hdirs
  refine ⟨first.octets, (merged (next :: others)).octets, h.named first (by simp), ?_, ?_⟩
  · have hnext : next.octets ≠ [] := h.named next (by simp)
    cases others with
    | nil => simpa [merged] using hnext
    | cons other rest => simp [merged, List.intercalate_cons_cons, hnext]
  · simp [merged, List.intercalate_cons_cons]

theorem entries_merged : Entries [merged dirs] where
  nonempty := List.cons_ne_nil _ _
  text := by
    rw [List.forall_mem_singleton]
    refine (Utf8.isText_intercalate_iff (by decide) _).mpr ?_
    rw [List.forall_mem_map]
    exact h.text
  named := by
    rw [List.forall_mem_singleton]
    obtain ⟨first, rest, rfl⟩ := List.exists_cons_of_ne_nil h.nonempty
    cases rest with
    | nil => simpa [merged] using h.named first
    | cons next others =>
      obtain ⟨front, back, -, -, hdivided⟩ := divided_merged h rfl
      simp [hdivided]
  free := by
    rw [List.forall_mem_singleton]
    intro hcolon
    obtain ⟨part, hpart, hin⟩ := (mem_intercalate (by decide) _).mp hcolon
    obtain ⟨dir, hdir, rfl⟩ := List.mem_map.mp hpart
    exact h.free dir hdir hin

theorem exportLine_merged : Shell.fish.exportLine dirs = Shell.fish.exportLine [merged dirs] := by
  rw [exportLine_eq_iff_joined h (entries_merged h)]
  exact List.intercalate_singleton.symm

/-- Without quotes the line determines one directory whose name has no space between other octets,
and no other directories. -/
theorem determined_fish_iff : (∀ dirs', Entries dirs' →
      Shell.fish.exportLine dirs = Shell.fish.exportLine dirs' → dirs = dirs') ↔
    ∃ dir, dirs = [dir] ∧ ¬ Divided dir.octets := by
  constructor
  · intro hdetermined
    -- Many directories have the line of one, and a divided one has the line of two.
    have hone : dirs = [merged dirs] := hdetermined _ (entries_merged h) (exportLine_merged h)
    refine ⟨merged dirs, hone, ?_⟩
    intro ⟨front, back, hfront, hback, hoctets⟩
    have hdir : merged dirs = ⟨front ++ space :: back⟩ := congrArg Path.mk hoctets
    rw [hdir] at hone
    have hentries := entries_of_divided (hone ▸ h) hfront hback
    have hline := exportLine_merged hentries
    rw [show merged [⟨front⟩, ⟨back⟩] = ⟨front ++ space :: back⟩ by simp [merged], ← hone] at hline
    have htwo := hone.symm.trans (hdetermined _ hentries hline.symm)
    simp at htwo
  · intro ⟨dir, he, hwhole⟩ dirs' h' heq
    subst he
    have hjoined := (exportLine_eq_iff_joined h h').mp heq
    rw [List.map_singleton, List.intercalate_singleton] at hjoined
    match dirs', h' with
    | [], h' => exact absurd rfl h'.nonempty
    | [dir'], _ =>
      rw [List.map_singleton, List.intercalate_singleton] at hjoined
      rw [octets_injective hjoined]
    | first :: next :: others, h' =>
      refine absurd ?_ hwhole
      rw [hjoined]
      exact divided_merged h' rfl

/-! ## What the line determines -/

/-- Two export lines are the same exactly if they have the same words between the separators of the
shell. So lines of directories without the separator are the same only for the same directories.
With quotes this goes for all entries of search paths: as none of them holds a colon, they are the
words. Without quotes a list is determined by its line only if it is one directory, with no space
between other octets. -/
theorem exportLine_determines (shell : Shell) :
    (∀ dirs', Entries dirs' →
      (shell.exportLine dirs = shell.exportLine dirs' ↔ shell.words dirs = shell.words dirs')) ∧
    (∀ dirs', Entries dirs' → (∀ dir ∈ dirs ++ dirs', shell.separator ∉ dir.octets) →
      shell.exportLine dirs = shell.exportLine dirs' → dirs = dirs') ∧
    (shell ≠ .fish → shell.words dirs = dirs.map Path.octets) ∧
    ((∀ dirs', Entries dirs' → shell.exportLine dirs = shell.exportLine dirs' → dirs = dirs') ↔
      shell ≠ .fish ∨ ∃ dir, dirs = [dir] ∧ ¬ Divided dir.octets) := by
  refine ⟨fun dirs' h' => exportLine_eq_iff_words h h', fun dirs' h' hfree heq => ?_,
    fun hquoted => ?_, ?_⟩
  · obtain ⟨hleft, hright⟩ := List.forall_mem_append.mp hfree
    exact eq_of_exportLine_of_free h h' hleft hright heq
  · exact words_of_free (separator_of_quoted hquoted ▸ h.free)
  · by_cases hfish : shell = .fish
    · subst hfish
      rw [determined_fish_iff h]
      simp
    · have hcolon := separator_of_quoted hfish
      refine ⟨fun _ => Or.inl hfish, fun _ dirs' h' heq => ?_⟩
      exact eq_of_exportLine_of_free h h' (hcolon ▸ h.free) (hcolon ▸ h'.free) heq

end Spaces

/-- Names with spaces: the quoted line determines the two directories, and the one without quotes
does not. -/
theorem exportLine_determines_spaces :
    let dirs := [Path.ofText "/a b/bin", Path.ofText "/a b/shims"]
    Entries dirs ∧
      (∀ dirs', Entries dirs' → Shell.bash.exportLine dirs = Shell.bash.exportLine dirs' →
        dirs = dirs') ∧
      ¬ ∀ dirs', Entries dirs' → Shell.fish.exportLine dirs = Shell.fish.exportLine dirs' →
        dirs = dirs' := by
  intro dirs
  have hentries : Entries dirs := by decide +kernel
  obtain ⟨-, -, -, hbash⟩ := exportLine_determines hentries .bash
  obtain ⟨-, -, -, hfish⟩ := exportLine_determines hentries .fish
  refine ⟨hentries, hbash.mpr (Or.inl nofun), fun hdetermined => ?_⟩
  rcases hfish.mp hdetermined with hquoted | ⟨dir, hone, -⟩
  · exact hquoted rfl
  · simp [dirs] at hone

/-- One directory with a space in its name has the line of two directories. -/
theorem exportLine_ambiguous :
    let one := [Path.ofText "/a /b"]
    let two := [Path.ofText "/a", Path.ofText "/b"]
    Entries one ∧ Entries two ∧ Shell.fish.exportLine one = "set -gx PATH $PATH /a /b" ∧
      Shell.fish.exportLine two = "set -gx PATH $PATH /a /b" ∧ one ≠ two := by
  decide +kernel

end Shell

end ToolBootstrap
