import ToolBootstrap.Proofs.PathText
import ToolBootstrap.Proofs.SearchPathCodec

/- What becomes of the CI file.

   `Opens` tells at what a path is opened for appending: at a file, with what it holds, or at a free
   name in a directory, where a file is made. The CI file is opened only for a search path that has
   a line. A line is added as a whole, or the failure names the file, and the file holds what it
   held and no more than the front of the line (`persist_whole`). -/

namespace ToolBootstrap

/-! ## Opening a file -/

namespace Disk

/-- At what a path is opened for appending: the location, and what a file there holds and whether
it is executable. -/
inductive Opens (disk : Disk) (path : Path) : Location → Bytes → Bool → Prop where
  /-- A file, unless the path asks for a directory. -/
  | file {l : Location} {data : Bytes} {mode : Bool} : namesDirectory path.octets = false →
      disk.locate path = .ok (l, .file data mode) → Opens disk path l data mode
  /-- A free name in a directory. -/
  | free {l : Location} : disk.resolve true path = .ok (.vacant l) → Opens disk path l [] false

/-- Whoever comes to a free name came by a name that an entry can have. -/
theorem Leads.vacant_name {disk : Disk} {final : Bool} {links : Nat} {base l : Location}
    {path : List Bytes} (h : Leads disk final links base path (.vacant l)) :
    ∃ name, path.getLast? = some name ∧ Plain name := by
  generalize hl : Landing.vacant l = landing at h
  induction h with
  | here => cases hl
  | dot _ _ ih =>
    obtain ⟨name, hlast, hp⟩ := ih hl
    exact ⟨name, by simp [List.getLast?_cons, hlast], hp⟩
  | up _ _ ih =>
    obtain ⟨name, hlast, hp⟩ := ih hl
    exact ⟨name, by simp [List.getLast?_cons, hlast], hp⟩
  | vacant _ hp _ => exact ⟨_, rfl, hp⟩
  | stop => cases hl
  | @follow _ _ name rest target _ _ hp _ _ _ ih =>
    cases rest with
    | nil => exact ⟨name, rfl, hp⟩
    | cons next others =>
      -- The last name behind the link is the last name of the path.
      obtain ⟨last, hlast, hp'⟩ := ih hl
      rw [List.getLast?_append_of_ne_nil _ (List.cons_ne_nil next others)] at hlast
      exact ⟨last, by rw [List.getLast?_cons_cons, hlast], hp'⟩
  | @through _ _ name rest _ _ _ hp _ _ _ ih =>
    cases rest with
    | nil => exact ⟨name, rfl, hp⟩
    | cons next others =>
      obtain ⟨last, hlast, hp'⟩ := ih hl
      exact ⟨last, by rw [List.getLast?_cons_cons, hlast], hp'⟩

variable {disk : Disk} {path : Path} {l : Location} {data : Bytes} {mode : Bool}

theorem namesDirectory_of_vacant (h : disk.resolve true path = .ok (.vacant l)) :
    namesDirectory path.octets = false := by
  obtain ⟨-, hleads⟩ := resolve_ok_iff.mp h
  obtain ⟨name, hlast, hdot, hup, -⟩ := hleads.vacant_name
  unfold names at hlast
  unfold namesDirectory
  split at hlast
  · -- A slash at the end would be resolved as a `.`.
    rw [List.getLast?_concat] at hlast
    exact absurd (Option.some.inj hlast).symm hdot
  · rename_i hslash
    simp [hlast, hslash, hdot, hup]

theorem writable_of_vacant (h : disk.resolve true path = .ok (.vacant l)) :
    disk.writable path = .ok l := by
  have hdir := namesDirectory_of_vacant h
  obtain ⟨href, hleads⟩ := resolve_ok_iff.mp h
  have hslash : endsInSlash path.octets = false := (Bool.or_eq_false_iff.mp hdir).1
  have hnames : names path.octets = runs path.octets := if_neg (by simp [hslash])
  rw [hnames] at hleads
  have hwalk : disk.walk true path.octets (runs path.octets) = .ok (.vacant l) :=
    walkWithin_iff.mpr hleads
  unfold writable
  simp only [href, hdir, Bool.false_eq_true, if_false, hwalk]

theorem Opens.writable (h : Opens disk path l data mode) :
    disk.writable path = .ok l ∧ disk.fileAt l = (data, mode) := by
  cases h with
  | file hdir hloc =>
    refine ⟨writable_of_file hloc hdir, ?_⟩
    rw [fileAt, (locate_ok_iff.mp hloc).2]
  | free hres =>
    refine ⟨writable_of_vacant hres, ?_⟩
    rw [fileAt, (resolve_ok_iff.mp hres).2.vacant_spec.1]

theorem opens_of_writable (h : disk.writable path = .ok l) :
    Opens disk path l (disk.fileAt l).1 (disk.fileAt l).2 := by
  obtain ⟨href, -, landing, hleads, ⟨rfl, hfree⟩ | ⟨rfl, data, mode, hfile⟩⟩ := writable_spec h
  · rw [fileAt, hfree]
    exact .free (resolve_ok_iff.mpr ⟨href, hleads⟩)
  · rw [fileAt, hfile]
    refine .file ?_ (locate_ok_iff.mpr ⟨resolve_ok_iff.mpr ⟨href, hleads⟩, hfile⟩)
    by_contra hdir
    obtain ⟨fault, hfault⟩ := writable_of_namesDirectory disk (Bool.of_not_eq_false hdir)
    rw [h] at hfault
    cases hfault

theorem Opens.front (h : Opens disk path l data mode) : disk.front l false = data := by
  show (disk.content? l).getD [] = data
  rw [← fileAt_content, h.writable.2]

theorem opens_iff_writable : (∃ l data mode, Opens disk path l data mode) ↔
    ∃ l, disk.writable path = .ok l :=
  ⟨fun ⟨l, _, _, h⟩ => ⟨l, h.writable.1⟩, fun ⟨l, h⟩ => ⟨l, _, _, opens_of_writable h⟩⟩

/-- A file has been opened at a path, octets stand behind what it held, and everything else is as it
was. -/
structure Appended (disk after : Disk) (path : Path) (more : Bytes) (l : Location) : Prop where
  there : ∃ data mode, Opens disk path l data mode ∧
    after.locate path = .ok (l, .file (data ++ more) mode)
  workingDirectory : after.workingDirectory = disk.workingDirectory
  others : ∀ other, other ≠ l → after.node? other = disk.node? other

theorem appended_of_put {disk after : Disk} {path : Path} {l : Location} {more : Bytes}
    (hw : disk.writable path = .ok l)
    (hsame : SameNodes (disk.put l (.file (disk.front l false ++ more) (disk.fileAt l).2)) after) :
    Appended disk after path more l := by
  have hopens := opens_of_writable hw
  refine ⟨⟨_, _, hopens, ?_⟩, hsame.1, fun other hother => ?_⟩
  · rw [← hopens.front]
    exact (hsame.locate path).trans (locate_written hw _ _)
  · rw [hsame.2 other, node?_put_of_ne disk _ hother]

end Disk

/-! ## The line -/

namespace SearchPath

/-- A line can be written exactly if no entry holds a colon and the entries are texts together. -/
theorem lineValue_ok_iff (path : SearchPath) : (∃ value, path.lineValue = .ok value) ↔
    (∀ entry ∈ path.entries, colon ∉ entry.octets) ∧ Utf8.IsText path.joined := by
  have hrefused := path.lineValue_error_iff
  rw [written_error_iff] at hrefused
  constructor
  · intro ⟨value, hvalue⟩
    refine ⟨fun entry hentry hcolon => ?_, ⟨value, encode_lineValue hvalue⟩⟩
    obtain ⟨failure, hfailure⟩ := hrefused.mpr (Or.inl ⟨entry, hentry, hcolon⟩)
    rw [hvalue] at hfailure
    cases hfailure
  · intro ⟨hfree, text, htext⟩
    cases hvalue : path.lineValue with
    | ok value => exact ⟨value, rfl⟩
    | error failure =>
      rcases hrefused.mp ⟨failure, hvalue⟩ with ⟨entry, hentry, hcolon⟩ | hnone
      · exact absurd hcolon (hfree entry hentry)
      · exact absurd htext (hnone text)

end SearchPath

/-! ## The CI file -/

namespace CiFile

theorem assignment_ne_nil (path : SearchPath) : assignment path ≠ [] := by
  simp [assignment]

theorem persist_ok_iff {file : Option Path} {path : SearchPath} {disk after : Disk} :
    persist file path disk = (.ok (), after) ↔ ∃ target, file = some target ∧
      (∃ value, path.lineValue = .ok value) ∧
      disk.append target (assignment path) = (.ok (), after) := by
  constructor
  · intro h
    cases persisted_of_eq h with
    | added hfile hvalue happend => exact ⟨_, hfile, ⟨_, hvalue⟩, happend⟩
  · intro ⟨target, he, ⟨value, hvalue⟩, happend⟩
    subst he
    simp only [persist, hvalue, line_eq_assignment hvalue, happend]

/-- The CI file was opened for a search path that has a line, and its writing broke off: it holds
what it held and a part of the line. -/
structure BrokeOff (file : Option Path) (path : SearchPath) (disk after : Disk) : Prop where
  hasLine : ∃ value, path.lineValue = .ok value
  mishaps : disk.mishap? = none ∧ disk.later.mishap? ≠ none
  left : ∃ target l kept, file = some target ∧ kept <+: assignment path ∧ kept ≠ assignment path ∧
    Disk.Appended disk after target kept l

section Failed

variable {file : Option Path} {path : SearchPath} {disk after : Disk} {failure : Failure}

theorem Persisted.unavailable (h : Persisted file path disk (.error failure) after) :
    ∃ reason, failure = .writeUnavailable file reason := by
  cases h with
  | refused => exact ⟨_, rfl⟩
  | failed => exact ⟨_, rfl⟩

theorem Persisted.same_or_broken (h : Persisted file path disk (.error failure) after) :
    Disk.SameNodes disk after ∨ BrokeOff file path disk after := by
  cases h with
  | refused _ => exact Or.inl (.refl disk)
  | failed hfile hvalue happend =>
    cases Disk.stored_of_eq happend with
    | unopened hsame _ => exact Or.inl hsame
    | broken hw hfirst hsecond hpart hproper hsame =>
      exact Or.inr ⟨⟨_, hvalue⟩, ⟨hfirst, hsecond⟩, _, _, _, hfile, hpart, hproper,
        Disk.appended_of_put hw hsame⟩

end Failed

/-- A search path is added to the CI file exactly if the file is given and can be opened for
appending, no entry holds a colon, the entries are texts, and neither the opening nor the writing
meets with a mishap. Then the file holds what it held and the line behind it, and everything else is
as it was. Otherwise the failure names the file that was given, and nothing has changed; but where
the file was opened and its writing broke off, it holds what it held and the front of the line. -/
theorem persist_whole (file : Option Path) (path : SearchPath) (disk : Disk) :
    ((persist file path disk).1 = .ok () ↔
      ∃ target, file = some target ∧ (∀ entry ∈ path.entries, colon ∉ entry.octets) ∧
        Utf8.IsText path.joined ∧ (∃ l data mode, Disk.Opens disk target l data mode) ∧
        disk.mishap? = none ∧ disk.later.mishap? = none) ∧
    match persist file path disk with
    | (.ok (), after) => ∃ target l, file = some target ∧
        Disk.Appended disk after target (Utf8.encode "PATH=" ++ path.joined ++ [0x0A]) l
    | (.error failure, after) => (∃ reason, failure = .writeUnavailable file reason) ∧
        (Disk.SameNodes disk after ∨ BrokeOff file path disk after) := by
  have hpersisted := persist_spec file path disk
  generalize persist file path disk = ran at hpersisted
  obtain ⟨failure | done, after⟩ := ran
  · refine ⟨iff_of_false (by simp) ?_, hpersisted.unavailable, hpersisted.same_or_broken⟩
    intro ⟨target, he, hfree, htext, hopens, hfirst, hsecond⟩
    subst he
    cases hpersisted with
    | refused hnone =>
      obtain ⟨value, hvalue⟩ := path.lineValue_ok_iff.mpr ⟨hfree, htext⟩
      exact hnone target value rfl hvalue
    | failed hfile _ happend =>
      -- If nothing stood in the way, the line would have been added.
      obtain rfl := Option.some.inj hfile
      have hok := (Disk.stored_of_eq happend).ok_iff.mpr
        ⟨Disk.opens_iff_writable.mp hopens, hfirst, Or.inr hsecond⟩
      cases hok
  · cases hpersisted with
    | @added target value _ hfile hvalue happend =>
      obtain ⟨hfree, htext⟩ := path.lineValue_ok_iff.mp ⟨value, hvalue⟩
      have hstored := Disk.stored_of_eq happend
      obtain ⟨hwritable, hfirst, hnext⟩ := hstored.ok_iff.mp rfl
      refine ⟨iff_of_true rfl ⟨target, hfile, hfree, htext, Disk.opens_iff_writable.mpr hwritable,
        hfirst, hnext.resolve_left (assignment_ne_nil path)⟩, ?_⟩
      cases hstored with
      | whole hw _ _ hsame => exact ⟨target, _, hfile, Disk.appended_of_put hw hsame⟩

/-- A file can be opened at a free name, and still the search path is not added to it, where the
device is full by then. The file has been made, and holds the front of the line. -/
theorem persist_breaks_off :
    let target := Path.ofText "/env"
    let disk : Disk := ⟨[], [], [none, some ⟨.noSpace, 4⟩]⟩
    let ran := persist (some target) ⟨[.ofText "/usr/bin"]⟩ disk
    disk.resolve true target = .ok (.vacant [Utf8.encode "env"]) ∧
      ran.1 = .error (.writeUnavailable (some target) "No space left on device (os error 28)") ∧
      disk.pathExists target = false ∧ ran.2.read target = .ok (Utf8.encode "PATH") := by
  decide +kernel

end CiFile

end ToolBootstrap
