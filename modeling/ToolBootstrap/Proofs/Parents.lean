import Mathlib.Data.List.DropRight
import ToolBootstrap.Proofs.Files
import ToolBootstrap.Proofs.Text

/- The directory above a path.

   The parent of a path is spelt by a front part of its octets, and leads through a front part of
   its names (`parent?_spec`). So a path leads somewhere only through its parent
   (`isDirectory_parent?`), and directories that could not be made are not there afterwards
   (`makeDirectories_error`). -/

namespace ToolBootstrap

/-! ## Spelling -/

namespace Path

/-- The names that a lead is resolved by. -/
def leadRuns : Option Component → List Bytes
  | some .here => [dotName]
  | _ => []

theorem intercalate_front {parts parts' : List Bytes} (h : parts' <+: parts) :
    [slash].intercalate parts' <+: [slash].intercalate parts := by
  induction parts' generalizing parts with
  | nil => exact List.nil_prefix
  | cons part rest ih =>
    obtain ⟨others, rfl, hrest⟩ := List.cons_prefix_iff.mp h
    cases rest with
    | nil =>
      cases others with
      | nil => exact List.prefix_rfl
      | cons next others =>
        rw [List.intercalate_singleton, List.intercalate_cons_cons, List.append_assoc]
        exact List.prefix_append _ _
    | cons next rest =>
      obtain ⟨others', rfl, _⟩ := List.cons_prefix_iff.mp hrest
      rw [List.intercalate_cons_cons, List.intercalate_cons_cons]
      exact (List.prefix_append_right_inj _).mpr (ih hrest)

theorem ofRuns_here_cons (part : Bytes) (rest : List Bytes) :
    (ofRuns (some .here) (part :: rest)).octets =
      dotName ++ slash :: [slash].intercalate (part :: rest) := rfl

theorem ofRuns_of_ne_here {front : Option Component} (h : front ≠ some .here)
    (parts : List Bytes) :
    (ofRuns front parts).octets = lead front ++ [slash].intercalate parts := by
  unfold ofRuns
  split
  · exact absurd rfl h
  · exact absurd rfl h
  · rfl

theorem ofRuns_front (front : Option Component) {parts parts' : List Bytes}
    (h : parts' <+: parts) : (ofRuns front parts').octets <+: (ofRuns front parts).octets := by
  by_cases hf : front = some .here
  · subst hf
    cases parts with
    | nil => rw [List.prefix_nil.mp h]
    | cons part rest =>
      cases parts' with
      | nil => exact List.prefix_append _ _
      | cons part' rest' =>
        rw [ofRuns_here_cons, ofRuns_here_cons]
        exact (List.prefix_append_right_inj _).mpr
          ((List.prefix_cons_inj slash).mpr (intercalate_front h))
  · rw [ofRuns_of_ne_here hf, ofRuns_of_ne_here hf]
    exact (List.prefix_append_right_inj _).mpr (intercalate_front h)

theorem runs_slash (octets : Bytes) : Disk.runs (slash :: octets) = Disk.runs octets := by
  rw [Disk.runs, show slash :: octets = [] ++ slash :: octets from rfl,
    List.splitOn_append_cons_self_of_not_mem List.not_mem_nil, List.filter_cons]
  rfl

theorem runs_cons_slash {first : Bytes} (hs : slash ∉ first) (hne : first ≠ []) (octets : Bytes) :
    Disk.runs (first ++ slash :: octets) = first :: Disk.runs octets := by
  rw [Disk.runs, List.splitOn_append_cons_self_of_not_mem hs, List.filter_cons,
    if_pos (by simpa using hne)]
  rfl

theorem runs_intercalate {parts : List Bytes} (h : ∀ part ∈ parts, slash ∉ part) :
    Disk.runs ([slash].intercalate parts) = parts.filter (· ≠ []) :=
  filter_splitOn_intercalate slash h

theorem runs_ofRuns (front : Option Component) {parts : List Bytes}
    (h : ∀ part ∈ parts, slash ∉ part) :
    Disk.runs (ofRuns front parts).octets = leadRuns front ++ parts.filter (· ≠ []) := by
  by_cases hf : front = some .here
  · subst hf
    cases parts with
    | nil => decide
    | cons part rest =>
      rw [ofRuns_here_cons, runs_cons_slash (by decide) (by decide), runs_intercalate h]
      rfl
  · rw [ofRuns_of_ne_here hf, ← runs_intercalate h]
    rcases front with _ | _ | _ | _ | name
    · rfl
    · exact runs_slash _
    · exact absurd rfl hf
    · rfl
    · rfl

/-- A path is its lead and the runs after it, and these hold no slash. -/
theorem split_spec (p : Path) :
    p.octets = (ofRuns p.split.1 p.split.2).octets ∧ ∀ part ∈ p.split.2, slash ∉ part := by
  obtain ⟨first, rest, hs⟩ :=
    List.exists_cons_of_ne_nil (List.splitOn_ne_nil slash p.octets)
  have hparts : ∀ part ∈ first :: rest, slash ∉ part := by
    rw [← hs]
    exact not_mem_of_mem_splitOn
  have hjoin : [slash].intercalate (first :: rest) = p.octets := by
    rw [← hs, List.intercalate_splitOn]
  have hrest : ∀ part ∈ rest, slash ∉ part := fun part hp => hparts part (List.mem_cons_of_mem _ hp)
  unfold split
  rw [hs]
  dsimp only
  split
  · rename_i habs
    refine ⟨?_, hrest⟩
    have hhead : p.octets.head? = some slash := by simpa [isAbsolute] using habs
    rw [← hjoin] at hhead ⊢
    -- A slash in front can only be the separator after an empty first run.
    cases first with
    | cons b bs =>
      rw [List.intercalate_cons_cons_left] at hhead
      cases hhead
      exact absurd List.mem_cons_self (hparts _ List.mem_cons_self)
    | nil =>
      cases rest with
      | nil => cases hhead
      | cons next others => rfl
  split
  · rename_i hdot
    refine ⟨?_, hrest⟩
    rw [← hjoin, hdot]
    cases rest with
    | nil => rfl
    | cons next others =>
      rw [List.intercalate_cons_cons, ofRuns_here_cons, List.append_assoc]
      rfl
  · exact ⟨hjoin.symm, hparts⟩

/-! ## The parent of a path -/

theorem dropIdle_eq (runs : List Bytes) :
    dropIdle runs = runs.rdropWhile fun run => (inner? run).isNone := rfl

theorem inner?_isNone_iff (run : Bytes) :
    (inner? run).isNone = true ↔ run = [] ∨ run = dotName := by
  unfold inner?
  split
  · simpa
  · rename_i h
    split <;> simpa using h

theorem dropIdle_front (runs : List Bytes) : dropIdle runs <+: runs :=
  List.rdropWhile_prefix _ _

theorem dropIdle_last {runs front : List Bytes} {last : Bytes}
    (h : dropIdle runs = front ++ [last]) : last ≠ [] ∧ last ≠ dotName := by
  have hne : (runs.rdropWhile fun run => (inner? run).isNone) ≠ [] := by
    rw [← dropIdle_eq, h]
    simp
  have hlast := List.rdropWhile_last_not _ _ hne
  simp only [← dropIdle_eq, h, List.getLast_append_singleton, inner?_isNone_iff, not_or] at hlast
  exact hlast

/-- The parent of a path is spelt by a front part of its octets, and its names are a proper front
part of the path's names. Unless it is empty, more than dots are left out. -/
theorem parent?_spec {p q : Path} (h : p.parent? = some q) :
    q.octets <+: p.octets ∧ ∃ more, more ≠ [] ∧
      Disk.runs p.octets = Disk.runs q.octets ++ more ∧
      (q.octets ≠ [] → ∃ name ∈ more, name ≠ dotName) := by
  obtain ⟨hoctets, hslash⟩ := p.split_spec
  have hruns := runs_ofRuns p.split.1 hslash
  rw [← hoctets] at hruns
  unfold parent? at h
  split at h
  · -- Nothing but a leading dot: the path above it is empty.
    rename_i hfront
    cases h
    refine ⟨List.nil_prefix, Disk.runs p.octets, ?_, rfl, fun hne => absurd rfl hne⟩
    rw [hruns, hfront]
    simp [leadRuns]
  · cases h
  · rename_i hnil _
    obtain rfl := Option.some.inj h
    obtain ⟨init, last, hkept⟩ := (List.eq_nil_or_concat' (dropIdle p.split.2)).resolve_left hnil
    obtain ⟨hlast, hdot⟩ := dropIdle_last hkept
    rw [hkept, List.dropLast_concat]
    -- What is kept of the runs is a front part of them, and so is what is kept without its last
    -- run.
    obtain ⟨idle, hidle⟩ := dropIdle_front p.split.2
    obtain ⟨idle', hidle'⟩ := dropIdle_front init
    have hsplit : p.split.2 = dropIdle init ++ (idle' ++ last :: idle) := by
      rw [← hidle, hkept, ← List.append_assoc, hidle', List.append_assoc]
      rfl
    have hpre : dropIdle init <+: p.split.2 := ⟨_, hsplit.symm⟩
    refine ⟨?_, (idle' ++ last :: idle).filter (· ≠ []), ?_, ?_, fun _ => ⟨last, ?_, hdot⟩⟩
    · rw [hoctets]
      exact ofRuns_front p.split.1 hpre
    · simp [hlast]
    · rw [hruns, runs_ofRuns p.split.1 fun part hp => hslash part (hpre.subset hp), hsplit,
        List.filter_append, List.append_assoc]
    · simp [hlast]

/-- A path without a parent has no names but dots. -/
theorem eq_dotName_of_parent?_none {p : Path} (h : p.parent? = none) {name : Bytes}
    (hname : name ∈ Disk.runs p.octets) : name = dotName := by
  obtain ⟨hoctets, hslash⟩ := p.split_spec
  have hruns := runs_ofRuns p.split.1 hslash
  rw [← hoctets] at hruns
  unfold parent? at h
  split at h
  · cases h
  · rename_i hkept hfront
    rw [dropIdle_eq, List.rdropWhile_eq_nil_iff] at hkept
    have hlead : leadRuns p.split.1 = [] := by
      unfold leadRuns
      split
      · rename_i hhere
        exact absurd hhere hfront
      · rfl
    rw [hruns, hlead, List.nil_append, List.mem_filter] at hname
    have hidle := (inner?_isNone_iff name).mp (hkept name hname.1)
    exact hidle.resolve_left (by simpa using hname.2)
  · cases h

theorem length_parent? {p q : Path} (h : p.parent? = some q) :
    q.octets.length < p.octets.length := by
  obtain ⟨hpre, more, hmore, hruns, _⟩ := parent?_spec h
  refine Nat.lt_of_le_of_ne hpre.length_le fun hlen => ?_
  rw [hpre.eq_of_length hlen] at hruns
  exact hmore (List.self_eq_append_right.mp hruns)

end Path

/-! ## Walking through the parent -/

namespace Disk

theorem Leads.concat_dot {disk : Disk} {final : Bool} {links : Nat} {base l : Location}
    {path : List Bytes} (h : Leads disk true links base path (.found l))
    (hl : disk.HasDirectory l) :
    Leads disk final links base (path ++ [dotName]) (.found l) :=
  h.concat (List.cons_ne_nil _ _) fun fewer => .dot hl (.here fewer l)

theorem names_eq (octets : Bytes) :
    ∃ tail, names octets = runs octets ++ tail ∧ (tail = [] ∨ tail = [dotName]) := by
  unfold names
  split
  · exact ⟨[dotName], rfl, Or.inr rfl⟩
  · exact ⟨[], (List.append_nil _).symm, Or.inl rfl⟩

theorem refused?_of_front {p q : Path} (h : refused? p = none) (hpre : q.octets <+: p.octets)
    (hq : q.octets ≠ []) : refused? q = none := by
  unfold refused? at h ⊢
  split at h
  · cases h
  rename_i hnul
  rw [if_neg, if_neg hq]
  intro hq'
  exact hnul (by simpa using hpre.subset (by simpa using hq'))

theorem origin_of_front {octets octets' : Bytes} (base : Location) (hpre : octets' <+: octets)
    (h : octets' ≠ []) : origin octets' base = origin octets base := by
  obtain ⟨tail, rfl⟩ := hpre
  cases octets' with
  | nil => exact absurd rfl h
  | cons b rest => rfl

/-- What a path leads to is below a directory that its parent leads to. -/
theorem isDirectory_parent? {disk : Disk} {p q : Path} {found : Location × Node}
    (h : disk.locate p = .ok found) (hq : p.parent? = some q) (hne : q.octets ≠ []) :
    disk.isDirectory q = true := by
  obtain ⟨href, hleads⟩ := resolve_ok_iff.mp (locate_ok_iff.mp h).1
  obtain ⟨hpre, more, hmore, hruns, _⟩ := Path.parent?_spec hq
  obtain ⟨tail, htail, _⟩ := names_eq p.octets
  rw [htail, hruns, List.append_assoc, ← origin_of_front _ hpre hne] at hleads
  obtain ⟨_, middle, _, hfront, hdir, _⟩ := hleads.split (by simp [hmore])
  have hnames : Leads disk true linkLimit (origin q.octets disk.workingDirectory) (names q.octets)
      (.found middle) := by
    obtain ⟨tail', htail', hcases⟩ := names_eq q.octets
    rw [htail']
    rcases hcases with rfl | rfl
    · rw [List.append_nil]
      exact hfront
    · exact hfront.concat_dot hdir
  obtain ⟨node, hnode, hisdir⟩ := hdir
  exact isDirectory_iff.mpr ⟨middle, node, locate_ok_iff.mpr
    ⟨resolve_ok_iff.mpr ⟨refused?_of_front href hpre hne, hnames⟩, hnode⟩, hisdir⟩

/-! ## Directories that could not be made -/

theorem makeDirectory_of_isDirectory {disk : Disk} {path : Path}
    (h : disk.isDirectory path = true) : disk.makeDirectory path = .error .alreadyThere := by
  obtain ⟨l, node, hloc, _⟩ := isDirectory_iff.mp h
  obtain ⟨href, hleads⟩ := resolve_ok_iff.mp (locate_ok_iff.mp hloc).1
  obtain ⟨tail, htail, hcases⟩ := names_eq path.octets
  rw [htail] at hleads
  have hfree : disk.free path = .error .alreadyThere := by
    unfold free
    rw [href]
    dsimp only
    cases hlast : (runs path.octets).getLast? with
    | none => rfl
    | some last =>
      dsimp only
      split
      · -- The last name is a dot or two: the walk in front of it ends at a directory.
        obtain ⟨init, hinit⟩ := List.getLast?_eq_some_iff.mp hlast
        rw [hinit, List.append_assoc] at hleads
        obtain ⟨_, middle, _, hfront, hdir, _⟩ := hleads.split (by simp)
        have hwalk : disk.walk true path.octets (init ++ [dotName]) = .ok (.found middle) :=
          walkWithin_iff.mpr (hfront.concat_dot hdir)
        rw [hinit, List.dropLast_concat, hwalk]
      · -- The walk that does not follow a last link finds at least that link.
        obtain ⟨m, hm⟩ : ∃ m, Leads disk false linkLimit
            (origin path.octets disk.workingDirectory) (runs path.octets) (.found m) := by
          rcases hcases with rfl | rfl
          · rw [List.append_nil] at hleads
            exact hleads.found_stopping
          · obtain ⟨_, middle, _, hfront, _, _⟩ := hleads.split (by simp)
            exact hfront.found_stopping
        have hwalk : disk.walk false path.octets (runs path.octets) = .ok (.found m) :=
          walkWithin_iff.mpr hm
        rw [hwalk]
  unfold makeDirectory
  rw [hfree]

theorem Attempt.error {disk made : Disk} {path : Path} {fault : IoFault}
    (h : Attempt disk path (.error fault) made) : made.isDirectory path = false := by
  cases h with
  | refused _ hdir => exact hdir

theorem Makes.ne_nil {disk made : Disk} {fuel : Nat} {path : Path} {fault : IoFault}
    (h : Makes disk (fuel + 1) path (.error fault) made) : path.octets ≠ [] := by
  cases h <;> assumption

/-- A directory that could not be made is not there. -/
theorem Makes.error {disk made : Disk} {fuel : Nat} {path : Path} {fault : IoFault}
    (h : Makes disk fuel path (.error fault) made) (hfuel : path.octets.length < fuel) :
    made.isDirectory path = false := by
  generalize hresult : Except.error fault = result at h
  induction h with
  | exhausted => omega
  | empty => cases hresult
  | alone _ _ hlast => exact Attempt.error (hresult ▸ hlast)
  | rootless _ hmake _ =>
    by_contra hdir
    rw [makeDirectory_of_isDirectory (by simpa using hdir)] at hmake
    cases hmake
  | @stopped fuel path parent _ made _ _ hparent hup ih =>
    have hlen := Path.length_parent? hparent
    have hnotdir := ih (by omega) hresult
    by_contra hdir
    obtain ⟨l, node, hloc, _⟩ := isDirectory_iff.mp (by simpa using hdir)
    obtain ⟨fuel, rfl⟩ : ∃ fewer, fuel = fewer + 1 := ⟨fuel - 1, by omega⟩
    -- Where the path leads, its parent is a directory.
    rw [isDirectory_parent? hloc hparent hup.ne_nil] at hnotdir
    cases hnotdir
  | after _ _ _ _ hlast _ => exact Attempt.error (hresult ▸ hlast)

theorem makeDirectories_error {disk made : Disk} {path : Path} {fault : IoFault}
    (h : disk.makeDirectories path = (.error fault, made)) : made.isDirectory path = false :=
  (makes_of_eq h).error (Nat.lt_succ_self _)

theorem not_located_of_error {disk made : Disk} {path parent : Path} {fault : IoFault}
    (hparent : path.parent? = some parent) (h : disk.makeDirectories parent = (.error fault, made))
    (found : Location × Node) : made.locate path ≠ .ok found := by
  intro hloc
  have hnot := makeDirectories_error h
  by_cases hempty : parent.octets = []
  · exact (makes_of_eq h).ne_nil hempty
  · rw [isDirectory_parent? hloc hparent hempty] at hnot
    cases hnot

end Disk

end ToolBootstrap
