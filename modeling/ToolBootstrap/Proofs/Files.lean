import ToolBootstrap.Git
import ToolBootstrap.Proofs.Walk
import ToolBootstrap.StartupFile

/- What writing does to a disk.

   Storing octets in a file ends in one of three ways (`Stored`): the file is not opened and nothing
   changes, or its writing breaks off behind some of the octets, or all of them are written.
   Whatever the end, no other location changes, and the file is found where it has been written
   (`locate_written`). Making directories goes one of a few ways (`Makes`), from which everything
   about it is shown; it puts directories where nothing was, whether it succeeds or not
   (`makeDirectories_extends`). `Keeps` is what both of them do to a location that is not written:
   it is left alone, or a directory is made where nothing was. -/

namespace ToolBootstrap.Disk

/-! ## Resolving -/

section Resolving

variable {disk after : Disk} {path : Path} {l : Location} {node : Node}

theorem resolve_ok_iff {final : Bool} {landing : Landing} :
    disk.resolve final path = .ok landing ↔ refused? path = none ∧
      Leads disk final linkLimit (origin path.octets disk.workingDirectory) (names path.octets)
        landing := by
  unfold resolve
  cases refused? path with
  | some fault => simp
  | none => simp [walk, walkWithin_iff]

theorem locate_ok_iff :
    disk.locate path = .ok (l, node) ↔
      disk.resolve true path = .ok (.found l) ∧ disk.node? l = some node := by
  unfold locate
  cases hr : disk.resolve true path with
  | error fault => simp
  | ok landing =>
    cases landing with
    | vacant m => simp
    | found m =>
      dsimp only
      cases hn : disk.node? m with
      | none =>
        simp only [Except.ok.injEq, Landing.found.injEq]
        constructor
        · intro h
          cases h
        · intro ⟨he, h⟩
          subst he
          rw [hn] at h
          cases h
      | some other =>
        simp only [Except.ok.injEq, Landing.found.injEq, Prod.mk.injEq]
        constructor
        · intro ⟨he, he'⟩
          subst he
          subst he'
          exact ⟨rfl, hn⟩
        · intro ⟨he, h⟩
          subst he
          exact ⟨rfl, Option.some.inj (hn.symm.trans h)⟩

theorem locate_retain (h : disk.locate path = .ok (l, node)) (hr : disk.Retains after)
    (hwd : after.workingDirectory = disk.workingDirectory) :
    ∃ other, after.locate path = .ok (l, other) ∧ node.Alike other := by
  obtain ⟨hres, hnode⟩ := locate_ok_iff.mp h
  obtain ⟨href, hleads⟩ := resolve_ok_iff.mp hres
  obtain ⟨other, hother, halike⟩ := hr l node hnode
  have hleads' := hleads.retain hr (Or.inl rfl)
  rw [← hwd] at hleads'
  exact ⟨other, locate_ok_iff.mpr ⟨resolve_ok_iff.mpr ⟨href, hleads'⟩, hother⟩, halike⟩

theorem isDirectory_iff :
    disk.isDirectory path = true ↔
      ∃ l node, disk.locate path = .ok (l, node) ∧ node.isDirectory = true := by
  unfold isDirectory
  cases hl : disk.locate path with
  | error fault => simp
  | ok found =>
    obtain ⟨m, other⟩ := found
    constructor
    · exact fun h => ⟨m, other, rfl, h⟩
    · intro ⟨_, _, heq, h⟩
      cases heq
      exact h

theorem read_ok_iff {data : Bytes} :
    disk.read path = .ok data ↔ ∃ l mode, disk.locate path = .ok (l, .file data mode) := by
  unfold read
  cases hl : disk.locate path with
  | error fault => simp
  | ok found =>
    obtain ⟨m, other⟩ := found
    cases other <;> simp

theorem read_of_locate {data : Bytes} {mode : Bool}
    (h : disk.locate path = .ok (l, .file data mode)) : disk.read path = .ok data :=
  read_ok_iff.mpr ⟨l, mode, h⟩

theorem pathExists_eq_false (h : ∀ found, disk.locate path ≠ .ok found) :
    disk.pathExists path = false := by
  unfold pathExists
  cases hloc : disk.locate path with
  | error fault => rfl
  | ok found => exact absurd hloc (h found)

theorem pathExists_of_read {data : Bytes} (h : disk.read path = .ok data) :
    disk.pathExists path = true := by
  obtain ⟨l, mode, hloc⟩ := read_ok_iff.mp h
  exact congrArg Except.isOk hloc

end Resolving

/-! ## Disks with the same entries -/

section Same

variable {disk middle after : Disk}

theorem SameNodes.refl (disk : Disk) : SameNodes disk disk := ⟨rfl, fun _ => rfl⟩

theorem SameNodes.symm (h : SameNodes disk after) : SameNodes after disk :=
  ⟨h.1.symm, fun l => (h.2 l).symm⟩

theorem SameNodes.trans (h : SameNodes disk middle) (h' : SameNodes middle after) :
    SameNodes disk after :=
  ⟨h'.1.trans h.1, fun l => (h'.2 l).trans (h.2 l)⟩

theorem later_same (disk : Disk) : SameNodes disk disk.later := ⟨rfl, fun _ => rfl⟩

theorem SameNodes.put (h : SameNodes disk after) (l : Location) (node : Node) :
    SameNodes (disk.put l node) (after.put l node) := by
  refine ⟨h.1, fun m => ?_⟩
  by_cases hm : m = l
  · subst hm
    by_cases hnil : m = []
    · rw [hnil, node?_nil, node?_nil]
    · rw [node?_put_self _ _ hnil, node?_put_self _ _ hnil]
  · rw [node?_put_of_ne _ _ hm, node?_put_of_ne _ _ hm, h.2 m]

theorem put_put_same (disk : Disk) (l : Location) (node other : Node) :
    SameNodes (disk.put l other) ((disk.put l node).put l other) := by
  refine ⟨rfl, fun m => ?_⟩
  by_cases hm : m = l
  · subst hm
    by_cases hnil : m = []
    · rw [hnil, node?_nil, node?_nil]
    · rw [node?_put_self _ _ hnil, node?_put_self _ _ hnil]
  · rw [node?_put_of_ne _ _ hm, node?_put_of_ne _ _ hm, node?_put_of_ne _ _ hm]

theorem SameNodes.walkNames (h : SameNodes disk after) (final : Bool)
    (onLink : Location → List Bytes → Except IoFault Landing) (base : Location)
    (path : List Bytes) :
    after.walkNames onLink final base path = disk.walkNames onLink final base path := by
  induction path generalizing base with
  | nil => rfl
  | cons name rest ih => simp only [Disk.walkNames, h.2, ih]

theorem SameNodes.walkWithin (h : SameNodes disk after) (final : Bool) (links : Nat) :
    after.walkWithin final links = disk.walkWithin final links := by
  induction links with
  | zero =>
    funext base path
    exact h.walkNames final _ base path
  | succ links ih =>
    funext base path
    show after.walkNames (after.walkWithin final links) final base path = _
    rw [ih]
    exact h.walkNames final _ base path

theorem SameNodes.walk (h : SameNodes disk after) (final : Bool) (octets : Bytes)
    (path : List Bytes) : after.walk final octets path = disk.walk final octets path := by
  rw [Disk.walk, Disk.walk, h.walkWithin, h.1]

theorem SameNodes.resolve (h : SameNodes disk after) (final : Bool) (path : Path) :
    after.resolve final path = disk.resolve final path := by
  simp only [Disk.resolve, h.walk]

theorem SameNodes.locate (h : SameNodes disk after) (path : Path) :
    after.locate path = disk.locate path := by
  simp only [Disk.locate, h.resolve, h.2]

theorem SameNodes.pathExists (h : SameNodes disk after) (path : Path) :
    after.pathExists path = disk.pathExists path := by
  rw [Disk.pathExists, Disk.pathExists, h.locate]

theorem SameNodes.read (h : SameNodes disk after) (path : Path) :
    after.read path = disk.read path := by
  simp only [Disk.read, h.locate]

theorem SameNodes.writable (h : SameNodes disk after) (path : Path) :
    after.writable path = disk.writable path := by
  simp only [Disk.writable, h.walk, h.2]

end Same

/-! ## Locations that are kept -/

/-- A location is left alone, or a directory is made where nothing was. -/
def Keeps (disk after : Disk) (l : Location) : Prop :=
  after.node? l = disk.node? l ∨ disk.node? l = none ∧ after.node? l = some .directory

/-- What the file at a location holds, if a file is there. -/
def content? (disk : Disk) (l : Location) : Option Bytes :=
  match disk.node? l with
  | some (.file data _) => some data
  | _ => none

section Keeping

variable {disk middle after : Disk} {l : Location}

theorem Keeps.refl (disk : Disk) (l : Location) : Keeps disk disk l := Or.inl rfl

theorem Keeps.trans (h : Keeps disk middle l) (h' : Keeps middle after l) : Keeps disk after l := by
  rcases h' with h' | ⟨hnone, hdir⟩
  · rcases h with h | ⟨hnone, hdir⟩
    · exact Or.inl (h'.trans h)
    · exact Or.inr ⟨hnone, h'.trans hdir⟩
  · rcases h with h | ⟨_, hdir'⟩
    · exact Or.inr ⟨h.symm.trans hnone, hdir⟩
    · rw [hnone] at hdir'
      cases hdir'

theorem Keeps.content (h : Keeps disk after l) : after.content? l = disk.content? l := by
  unfold content?
  rcases h with h | ⟨hnone, hdir⟩
  · rw [h]
  · rw [hnone, hdir]

theorem retains_of_keeps (h : ∀ l, disk.node? l ≠ none → Keeps disk after l) :
    disk.Retains after := by
  intro l node hnode
  rcases h l (by simp [hnode]) with hkeep | ⟨hnone, _⟩
  · exact ⟨node, hkeep.trans hnode, .same node⟩
  · rw [hnode] at hnone
    cases hnone

theorem locate_of_keeps {path : Path} {node : Node}
    (h : ∀ l, disk.node? l ≠ none → Keeps disk after l)
    (hwd : after.workingDirectory = disk.workingDirectory)
    (hloc : disk.locate path = .ok (l, node)) : after.locate path = .ok (l, node) := by
  obtain ⟨other, hother, _⟩ := locate_retain hloc (retains_of_keeps h) hwd
  have hnode := (locate_ok_iff.mp hloc).2
  have hafter := (locate_ok_iff.mp hother).2
  rcases h l (by simp [hnode]) with hkeep | ⟨hnone, _⟩
  · rw [hkeep, hnode] at hafter
    cases hafter
    exact hother
  · rw [hnode] at hnone
    cases hnone

theorem keeps_put_of_ne (disk : Disk) {m : Location} (node : Node) (h : l ≠ m) :
    Keeps disk (disk.put m node) l := Or.inl (node?_put_of_ne disk node h)

theorem keeps_put_directory {m : Location} (hm : m ≠ []) (hfree : disk.node? m = none)
    (l : Location) : Keeps disk (disk.put m .directory) l := by
  by_cases h : l = m
  · subst h
    exact Or.inr ⟨hfree, node?_put_self disk .directory hm⟩
  · exact keeps_put_of_ne disk .directory h

end Keeping

/-! ## Writing files -/

/-- What a location is before a file is written to it: free, or a file. -/
theorem writable_spec {disk : Disk} {path : Path} {l : Location} (h : disk.writable path = .ok l) :
    refused? path = none ∧ l ≠ [] ∧ ∃ landing,
      Leads disk true linkLimit (origin path.octets disk.workingDirectory) (names path.octets)
        landing ∧
      (landing = .vacant l ∧ disk.node? l = none ∨
        landing = .found l ∧ ∃ data mode, disk.node? l = some (.file data mode)) := by
  unfold writable at h
  split at h
  · cases h
  rename_i href
  split at h
  · split at h <;> cases h
  rename_i hdir
  have hnames : names path.octets = runs path.octets := by
    refine if_neg fun hslash => hdir ?_
    rw [namesDirectory, hslash, Bool.true_or]
  split at h
  · cases h
  · rename_i m hwalk
    cases h
    have hleads := walkWithin_iff.mp hwalk
    obtain ⟨hfree, above, name, rfl, _⟩ := hleads.vacant_spec
    exact ⟨href, by simp, _, by rw [hnames]; exact hleads, Or.inl ⟨rfl, hfree⟩⟩
  · rename_i m hwalk
    have hleads := walkWithin_iff.mp hwalk
    split at h
    · rename_i data mode hfile
      cases h
      refine ⟨href, ?_, _, by rw [hnames]; exact hleads, Or.inr ⟨rfl, data, mode, hfile⟩⟩
      intro hnil
      rw [hnil, node?_nil] at hfile
      cases hfile
    · cases h

theorem writable_of_namesDirectory (disk : Disk) {path : Path}
    (h : namesDirectory path.octets = true) : ∃ fault, disk.writable path = .error fault := by
  unfold writable
  split
  · exact ⟨_, rfl⟩
  rw [if_pos h]
  split <;> exact ⟨_, rfl⟩

theorem writable_of_file {disk : Disk} {path : Path} {l : Location} {data : Bytes} {mode : Bool}
    (hloc : disk.locate path = .ok (l, .file data mode))
    (h : namesDirectory path.octets = false) : disk.writable path = .ok l := by
  obtain ⟨hres, hfile⟩ := locate_ok_iff.mp hloc
  obtain ⟨href, hleads⟩ := resolve_ok_iff.mp hres
  have hnames : names path.octets = runs path.octets := by
    unfold namesDirectory at h
    exact if_neg (by simpa using (Bool.or_eq_false_iff.mp h).1)
  rw [hnames] at hleads
  have hwalk : disk.walk true path.octets (runs path.octets) = .ok (.found l) :=
    walkWithin_iff.mpr hleads
  unfold writable
  simp only [href, h, Bool.false_eq_true, if_false, hwalk, hfile]

theorem retains_written {disk : Disk} {path : Path} {l : Location} (h : disk.writable path = .ok l)
    (data : Bytes) (mode : Bool) : disk.Retains (disk.put l (.file data mode)) := by
  obtain ⟨-, hne, _, -, hland⟩ := writable_spec h
  intro m node hm
  by_cases hml : m = l
  · subst hml
    have hself := node?_put_self disk (.file data mode) hne
    rcases hland with ⟨-, hfree⟩ | ⟨-, old, mode, hfile⟩
    · rw [hm] at hfree
      cases hfree
    · rw [hm] at hfile
      cases hfile
      exact ⟨_, hself, .files ..⟩
  · exact ⟨node, (node?_put_of_ne disk _ hml).trans hm, .same node⟩

theorem locate_written {disk : Disk} {path : Path} {l : Location} (h : disk.writable path = .ok l)
    (data : Bytes) (mode : Bool) :
    (disk.put l (.file data mode)).locate path = .ok (l, .file data mode) := by
  obtain ⟨href, hne, landing, hleads, hland⟩ := writable_spec h
  have hretains := retains_written h data mode
  have hself := node?_put_self disk (.file data mode) hne
  generalize hafter : disk.put l (.file data mode) = after at hretains hself ⊢
  have hwd : after.workingDirectory = disk.workingDirectory := by rw [← hafter]; rfl
  have hl : Leads after true linkLimit (origin path.octets after.workingDirectory)
      (names path.octets) (.found l) := by
    rw [hwd]
    refine hleads.retain hretains ?_
    rcases hland with ⟨rfl, _⟩ | ⟨rfl, _⟩
    · exact Or.inr ⟨rfl, _, hself, fun _ => Node.noConfusion⟩
    · exact Or.inl rfl
  exact locate_ok_iff.mpr ⟨resolve_ok_iff.mpr ⟨href, hl⟩, hself⟩

theorem read_written {disk : Disk} {path : Path} {l : Location} (h : disk.writable path = .ok l)
    (data : Bytes) (mode : Bool) : (disk.put l (.file data mode)).read path = .ok data :=
  read_of_locate (locate_written h data mode)

theorem fileAt_content (disk : Disk) (l : Location) :
    (disk.fileAt l).1 = (disk.content? l).getD [] := by
  unfold fileAt content?
  cases disk.node? l with
  | none => rfl
  | some node => cases node <;> rfl

theorem contentOrNothing_eq {disk : Disk} {path : Path} {l : Location}
    (h : disk.writable path = .ok l) :
    StartupFile.contentOrNothing disk path = (disk.content? l).getD [] := by
  obtain ⟨href, hne, landing, hleads, hland⟩ := writable_spec h
  unfold StartupFile.contentOrNothing content?
  rcases hland with ⟨rfl, hfree⟩ | ⟨rfl, old, mode, hfile⟩
  · have hread : disk.read path = .error .noEntry := by
      simp only [read, locate, resolve_ok_iff.mpr ⟨href, hleads⟩]
    rw [hread, hfree]
    rfl
  · have hread := read_of_locate (locate_ok_iff.mpr
      ⟨resolve_ok_iff.mpr ⟨href, hleads⟩, hfile⟩)
    rw [hread, hfile]
    rfl

/-! ## Storing -/

/-- What the file at a location holds once it has been opened for writing. -/
def front (disk : Disk) (l : Location) (emptied : Bool) : Bytes :=
  if emptied then [] else (disk.content? l).getD []

/-- What storing octets in a file can come to: the file is not opened, and nothing changes; or its
writing breaks off behind some of the octets; or all of them are written. -/
inductive Stored (disk : Disk) (path : Path) (emptied : Bool) (data : Bytes) :
    Except IoFault Unit → Disk → Prop where
  | unopened {fault : IoFault} {after : Disk} : SameNodes disk after →
      ((∃ other, disk.writable path = .error other) ∨ disk.mishap? ≠ none) →
      Stored disk path emptied data (.error fault) after
  | broken {fault : IoFault} {after : Disk} {l : Location} {kept : Bytes} :
      disk.writable path = .ok l → disk.mishap? = none → disk.later.mishap? ≠ none →
      kept <+: data → kept ≠ data →
      SameNodes (disk.put l (.file (disk.front l emptied ++ kept) (disk.fileAt l).2)) after →
      Stored disk path emptied data (.error fault) after
  | whole {after : Disk} {l : Location} : disk.writable path = .ok l →
      disk.mishap? = none → (data = [] ∨ disk.later.mishap? = none) →
      SameNodes (disk.put l (.file (disk.front l emptied ++ data) (disk.fileAt l).2)) after →
      Stored disk path emptied data (.ok ()) after

/-- The part of some octets that is written before the last one is a proper one. -/
theorem take_dropLast_prefix {data : Bytes} (h : data ≠ []) (n : Nat) :
    data.dropLast.take n <+: data ∧ data.dropLast.take n ≠ data := by
  refine ⟨(List.take_prefix n _).trans (List.dropLast_prefix data), fun heq => ?_⟩
  have hlength := congrArg List.length heq
  have hpos := List.length_pos_iff.mpr h
  simp only [List.length_take, List.length_dropLast] at hlength
  omega

theorem store_spec (disk : Disk) (path : Path) (emptied : Bool) (data : Bytes) :
    Stored disk path emptied data (disk.store path emptied data).1
      (disk.store path emptied data).2 := by
  unfold store openFile
  cases hw : disk.writable path with
  | error fault => exact .unopened (.refl disk) (Or.inl ⟨fault, hw⟩)
  | ok l =>
    cases hm : disk.mishap? with
    | some mishap => exact .unopened (later_same disk) (Or.inr (by simp [hm]))
    | none =>
      have hne : l ≠ [] := (writable_spec hw).2.1
      dsimp only
      rw [fileAt_content]
      generalize hopened : disk.later.put l _ = opened
      -- What the file holds once it is open, and what is written then.
      have hfile : opened.fileAt l = (disk.front l emptied, (disk.fileAt l).2) := by
        rw [← hopened, fileAt, node?_put_self _ _ hne]
        rfl
      have hwritten : ∀ more, SameNodes (disk.put l (.file (disk.front l emptied ++ more)
          (disk.fileAt l).2)) (opened.later.put l (.file (disk.front l emptied ++ more)
            (disk.fileAt l).2)) := by
        intro more
        rw [← hopened]
        have hagain := (later_same (disk.later.put l (.file (disk.front l emptied)
          (disk.fileAt l).2))).put l (.file (disk.front l emptied ++ more) (disk.fileAt l).2)
        exact (((later_same disk).put l _).trans (put_put_same _ l _ _)).trans hagain
      have hnext : opened.mishap? = disk.later.mishap? := by rw [← hopened]; rfl
      unfold writeAll
      rw [hfile, hnext]
      dsimp only
      split
      · rename_i hdata
        subst hdata
        refine .whole hw hm (Or.inl rfl) ?_
        rw [List.append_nil, ← hopened]
        exact (later_same disk).put l _
      · rename_i hdata
        cases hsecond : disk.later.mishap? with
        | none => exact .whole hw hm (Or.inr hsecond) (hwritten data)
        | some mishap =>
          obtain ⟨hpart, hproper⟩ := take_dropLast_prefix hdata mishap.kept
          exact .broken hw hm (by simp [hsecond]) hpart hproper (hwritten _)

section Stores

variable {disk after : Disk} {path : Path} {emptied : Bool} {data : Bytes}
  {result : Except IoFault Unit}

theorem stored_of_eq (h : disk.store path emptied data = (result, after)) :
    Stored disk path emptied data result after := by
  have hspec := disk.store_spec path emptied data
  rwa [h] at hspec

/-- What is stored is stored whole exactly if the path can be written to, and neither the opening of
the file nor the writing meets with a mishap. -/
theorem Stored.ok_iff (h : Stored disk path emptied data result after) :
    result = .ok () ↔ (∃ l, disk.writable path = .ok l) ∧ disk.mishap? = none ∧
      (data = [] ∨ disk.later.mishap? = none) := by
  cases h with
  | unopened _ hwhy =>
    refine iff_of_false (by simp) ?_
    intro ⟨⟨l, hw⟩, hnone, _⟩
    rcases hwhy with ⟨other, hother⟩ | hsome
    · rw [hw] at hother
      cases hother
    · exact hsome hnone
  | broken hw _ hsome hpart hproper _ =>
    refine iff_of_false (by simp) ?_
    rintro ⟨-, -, rfl | hnone⟩
    · exact hproper (List.prefix_nil.mp hpart)
    · exact hsome hnone
  | whole hw hnone hnext _ => exact iff_of_true rfl ⟨⟨_, hw⟩, hnone, hnext⟩

/-- Whether octets are stored does not depend on them, if there are any. -/
theorem store_result {other : Bytes} (h : data ≠ []) (h' : other ≠ []) :
    (disk.store path emptied data).1 = (disk.store path emptied other).1 := by
  unfold store
  rcases disk.openFile path emptied with ⟨fault | l, opened⟩
  · rfl
  · simp only [writeAll, h, h', if_false]
    cases opened.mishap? <;> rfl

theorem Stored.keeps (h : Stored disk path emptied data result after) {l : Location}
    (hl : ∀ node, after.locate path ≠ .ok (l, node)) : after.node? l = disk.node? l := by
  have hput : ∀ {m : Location} {content : Bytes} {mode : Bool}, disk.writable path = .ok m →
      SameNodes (disk.put m (.file content mode)) after → after.node? l = disk.node? l := by
    intro m content mode hw hsame
    have hne : l ≠ m := by
      intro he
      subst he
      exact hl _ ((hsame.locate path).trans (locate_written hw content mode))
    rw [hsame.2 l, node?_put_of_ne disk _ hne]
  cases h with
  | unopened hsame _ => exact hsame.2 l
  | broken hw _ _ _ _ hsame => exact hput hw hsame
  | whole hw _ _ hsame => exact hput hw hsame

/-- What any path leads to is found there after a store, unless it is the file that is written
to. -/
theorem Stored.locate (h : Stored disk path emptied data result after) {other : Path}
    {l : Location} {node : Node} (hloc : disk.locate other = .ok (l, node))
    (hl : ∀ node, after.locate path ≠ .ok (l, node)) : after.locate other = .ok (l, node) := by
  have hput : ∀ {m : Location} {content : Bytes} {mode : Bool}, disk.writable path = .ok m →
      SameNodes (disk.put m (.file content mode)) after → after.locate other = .ok (l, node) := by
    intro m content mode hw hsame
    have hretains := retains_written hw content mode
    obtain ⟨found, hfound, -⟩ := locate_retain hloc hretains rfl
    have hafter := (hsame.locate other).trans hfound
    have hnode := (h.keeps hl).trans (locate_ok_iff.mp hloc).2
    rw [(locate_ok_iff.mp hafter).2] at hnode
    cases hnode
    exact hafter
  cases h with
  | unopened hsame _ => exact (hsame.locate other).trans hloc
  | broken hw _ _ _ _ hsame => exact hput hw hsame
  | whole hw _ _ hsame => exact hput hw hsame

theorem append_spec (h : disk.append path data = (.ok (), after)) :
    ∃ l mode, SameNodes (disk.put l
        (.file (StartupFile.contentOrNothing disk path ++ data) mode)) after ∧
      after.locate path =
        .ok (l, .file (StartupFile.contentOrNothing disk path ++ data) mode) := by
  cases stored_of_eq h with
  | @whole _ l hw _ _ hsame =>
    have hfront : disk.front l false = StartupFile.contentOrNothing disk path := by
      rw [contentOrNothing_eq hw]
      rfl
    rw [hfront] at hsame
    exact ⟨l, _, hsame, (hsame.locate path).trans (locate_written hw _ _)⟩

theorem read_appended (h : disk.append path data = (.ok (), after)) :
    after.read path = .ok (StartupFile.contentOrNothing disk path ++ data) := by
  obtain ⟨l, mode, _, hloc⟩ := append_spec h
  exact read_of_locate hloc

end Stores

/-! ## Making directories -/

/-- What a location is before something is made there: nothing, below a directory. -/
theorem free_leads {disk : Disk} {path : Path} {l : Location} (h : disk.free path = .ok l) :
    refused? path = none ∧
      (∃ name, (runs path.octets).getLast? = some name ∧ name ≠ dotName ∧ name ≠ dotDotName) ∧
      Leads disk false linkLimit (origin path.octets disk.workingDirectory) (runs path.octets)
        (.vacant l) := by
  unfold free at h
  split at h
  · cases h
  rename_i haccepted
  split at h
  · cases h
  rename_i name hname
  split at h
  · split at h <;> cases h
  rename_i hplain
  split at h
  · cases h
  · cases h
  · rename_i m hwalk
    cases h
    obtain ⟨hdot, hup⟩ := not_or.mp hplain
    exact ⟨haccepted, ⟨name, hname, hdot, hup⟩, walkWithin_iff.mp hwalk⟩

theorem free_spec {disk : Disk} {path : Path} {l : Location} (h : disk.free path = .ok l) :
    l ≠ [] ∧ disk.node? l = none := by
  obtain ⟨_, _, hleads⟩ := free_leads h
  obtain ⟨hfree, above, name, rfl, _⟩ := hleads.vacant_spec
  exact ⟨by simp, hfree⟩

theorem makeDirectory_ok_iff {disk made : Disk} {path : Path} :
    disk.makeDirectory path = .ok made ↔
      ∃ l, disk.free path = .ok l ∧ made = disk.put l .directory := by
  unfold makeDirectory
  cases disk.free path with
  | error fault => simp
  | ok l => simp [eq_comm]

/-- One disk becomes another by directories that are made where nothing was. -/
def Extends (disk after : Disk) : Prop :=
  after.workingDirectory = disk.workingDirectory ∧ ∀ l, Keeps disk after l

theorem Extends.refl (disk : Disk) : Extends disk disk := ⟨rfl, Keeps.refl disk⟩

theorem Extends.trans {disk middle after : Disk} (h : Extends disk middle)
    (h' : Extends middle after) : Extends disk after :=
  ⟨h'.1.trans h.1, fun l => (h.2 l).trans (h'.2 l)⟩

theorem Extends.locate {disk after : Disk} {path : Path} {l : Location} {node : Node}
    (h : Extends disk after) (hloc : disk.locate path = .ok (l, node)) :
    after.locate path = .ok (l, node) := locate_of_keeps (fun l _ => h.2 l) h.1 hloc

theorem Extends.read {disk after : Disk} {path : Path} {data : Bytes} (h : Extends disk after)
    (hread : disk.read path = .ok data) : after.read path = .ok data := by
  obtain ⟨l, mode, hloc⟩ := read_ok_iff.mp hread
  exact read_of_locate (h.locate hloc)

theorem makeDirectory_extends {disk after : Disk} {path : Path}
    (h : disk.makeDirectory path = .ok after) : Extends disk after := by
  obtain ⟨l, hfree, rfl⟩ := makeDirectory_ok_iff.mp h
  obtain ⟨hne, hnone⟩ := free_spec hfree
  exact ⟨rfl, keeps_put_directory hne hnone⟩

/-- What trying to make one directory comes to: it is made, or it is there, or it is not to be
had. -/
inductive Attempt (disk : Disk) (path : Path) : Except IoFault Unit → Disk → Prop where
  | made {made : Disk} : disk.makeDirectory path = .ok made → Attempt disk path (.ok ()) made
  | there {fault : IoFault} : disk.makeDirectory path = .error fault →
      disk.isDirectory path = true → Attempt disk path (.ok ()) disk
  | refused {fault : IoFault} : disk.makeDirectory path = .error fault →
      disk.isDirectory path = false → Attempt disk path (.error fault) disk

/-- What making a directory and those above it comes to: there is nothing to make; the directory
comes to be or is refused for another reason than that nothing is above it; or those above it are
made first, if its path has any. -/
inductive Makes (disk : Disk) : Nat → Path → Except IoFault Unit → Disk → Prop where
  | exhausted (path : Path) : Makes disk 0 path (.error .noEntry) disk
  | empty {fuel : Nat} {path : Path} : path.octets = [] → Makes disk (fuel + 1) path (.ok ()) disk
  | alone {fuel : Nat} {path : Path} {result : Except IoFault Unit} {made : Disk} :
      path.octets ≠ [] → disk.makeDirectory path ≠ .error .noEntry →
      Attempt disk path result made → Makes disk (fuel + 1) path result made
  | rootless {fuel : Nat} {path : Path} {fault : IoFault} : path.octets ≠ [] →
      disk.makeDirectory path = .error .noEntry → path.parent? = none →
      Makes disk (fuel + 1) path (.error fault) disk
  | stopped {fuel : Nat} {path parent : Path} {fault : IoFault} {made : Disk} : path.octets ≠ [] →
      disk.makeDirectory path = .error .noEntry → path.parent? = some parent →
      Makes disk fuel parent (.error fault) made → Makes disk (fuel + 1) path (.error fault) made
  | after {fuel : Nat} {path parent : Path} {middle made : Disk} {result : Except IoFault Unit} :
      path.octets ≠ [] → disk.makeDirectory path = .error .noEntry → path.parent? = some parent →
      Makes disk fuel parent (.ok ()) middle → Attempt middle path result made →
      Makes disk (fuel + 1) path result made

/-- A directory that is there after all is as good as one that is made. -/
theorem attempt_of_error {disk : Disk} {path : Path} {fault : IoFault}
    (h : disk.makeDirectory path = .error fault) {result : Except IoFault Unit} {made : Disk}
    (hresult : (if disk.isDirectory path then (.ok (), disk) else (.error fault, disk)) =
      (result, made)) : Attempt disk path result made := by
  split at hresult
  · rename_i hdir
    cases hresult
    exact .there h hdir
  · rename_i hdir
    cases hresult
    exact .refused h (by simpa using hdir)

/-- Making directories goes one of these ways. -/
theorem makes_of_eq {disk made : Disk} {fuel : Nat} {path : Path} {result : Except IoFault Unit}
    (h : disk.makeDirectoriesWithin fuel path = (result, made)) :
    Makes disk fuel path result made := by
  induction fuel generalizing path result made with
  | zero =>
    cases h
    exact .exhausted path
  | succ fuel ih =>
    rw [makeDirectoriesWithin] at h
    split at h
    · rename_i hempty
      cases h
      exact .empty hempty
    rename_i hne
    split at h
    · rename_i hmake
      cases h
      exact .alone hne (by simp [hmake]) (.made hmake)
    · rename_i hmake
      split at h
      · rename_i hnone
        cases h
        exact .rootless hne hmake hnone
      rename_i parent hparent
      split at h
      · rename_i hup
        cases h
        exact .stopped hne hmake hparent (ih hup)
      rename_i middle hup
      refine .after hne hmake hparent (ih hup) ?_
      split at h
      · rename_i hmake'
        cases h
        exact .made hmake'
      · rename_i hmake'
        exact attempt_of_error hmake' h
    · rename_i fault hother hmake
      refine .alone hne ?_ (attempt_of_error hmake h)
      rw [hmake]
      exact fun heq => hother (Except.error.inj heq)

theorem Attempt.extends {disk made : Disk} {path : Path} {result : Except IoFault Unit}
    (h : Attempt disk path result made) : Extends disk made := by
  cases h with
  | made hmake => exact makeDirectory_extends hmake
  | there => exact .refl disk
  | refused => exact .refl disk

theorem Makes.extends {disk made : Disk} {fuel : Nat} {path : Path} {result : Except IoFault Unit}
    (h : Makes disk fuel path result made) : Extends disk made := by
  induction h with
  | exhausted => exact .refl disk
  | empty => exact .refl disk
  | alone _ _ hlast => exact hlast.extends
  | rootless => exact .refl disk
  | stopped _ _ _ _ ih => exact ih
  | after _ _ _ _ hlast ih => exact ih.trans hlast.extends

theorem makes (disk : Disk) (path : Path) : Makes disk (path.octets.length + 1) path
    (disk.makeDirectories path).1 (disk.makeDirectories path).2 := makes_of_eq rfl

theorem makeDirectories_extends (disk : Disk) (path : Path) :
    Extends disk (disk.makeDirectories path).2 :=
  (makes disk path).extends

end ToolBootstrap.Disk
