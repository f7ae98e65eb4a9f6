import ToolBootstrap.CiFile
import ToolBootstrap.Manager.Basic
import ToolBootstrap.Proofs.Parents
import ToolBootstrap.Proofs.Utf8

/- The two ways of persisting a search path.

   `Ensured` lists what adding lines to a startup file can come to, with the disk that it leaves,
   and `ensureLines_spec` says that it is one of these. From it: a startup file that was updated, or
   that needed no update, holds the marker, and no other file has changed. `Persisted` does the same
   for the CI file, which is opened only for a search path that has a line (`persist_spec`). -/

namespace ToolBootstrap

/-! ## The search path -/

namespace SearchPath

theorem add_cases (path : SearchPath) (dir : Path) :
    path.contains dir = true ∧ path.add dir = path ∨
      path.contains dir = false ∧ path.add dir = ⟨path.entries ++ [dir]⟩ := by
  unfold add
  cases path.contains dir <;> simp

theorem prefix_add (path : SearchPath) (dir : Path) : path.entries <+: (path.add dir).entries := by
  rcases path.add_cases dir with ⟨-, hadd⟩ | ⟨-, hadd⟩
  · rw [hadd]
  · rw [hadd]
    exact List.prefix_append path.entries [dir]

theorem contains_of_front {p q : SearchPath} (h : p.entries <+: q.entries) {dir : Path}
    (hd : p.contains dir = true) : q.contains dir = true := by
  obtain ⟨entry, hentry, hsame⟩ := List.any_eq_true.mp hd
  exact List.any_eq_true.mpr ⟨entry, h.subset hentry, hsame⟩

theorem contains_add (path : SearchPath) (dir : Path) : (path.add dir).contains dir = true := by
  rcases path.add_cases dir with ⟨hcontains, hadd⟩ | ⟨-, hadd⟩
  · rwa [hadd]
  · rw [hadd]
    exact List.any_eq_true.mpr ⟨dir, by simp, by simp [Path.same]⟩

theorem prefix_extended (path : SearchPath) (dirs : List Path) :
    path.entries <+: (path.extended dirs).entries := by
  induction dirs generalizing path with
  | nil => exact List.prefix_rfl
  | cons dir rest ih => exact (prefix_add path dir).trans (ih (path.add dir))

theorem contains_extended (path : SearchPath) {dirs : List Path} {dir : Path} (h : dir ∈ dirs) :
    (path.extended dirs).contains dir = true := by
  induction dirs generalizing path with
  | nil => simp at h
  | cons first rest ih =>
    rcases List.mem_cons.mp h with rfl | h
    · exact contains_of_front (prefix_extended (path.add dir) rest) (contains_add path dir)
    · exact ih (path.add first) h

/-- The written form of a path: its entries with a colon between them. -/
def joined (path : SearchPath) : Bytes := [colon].intercalate (path.entries.map Path.octets)

theorem written_eq_joined {path : SearchPath} {octets : Bytes} (h : path.written = .ok octets) :
    octets = path.joined := by
  unfold written at h
  split at h
  · cases h
  · exact (Except.ok.inj h).symm

theorem encode_lineValue {path : SearchPath} {value : String} (h : path.lineValue = .ok value) :
    Utf8.encode value = path.joined := by
  unfold lineValue at h
  split at h
  · cases h
  rename_i octets hw
  obtain rfl := written_eq_joined hw
  split at h
  · rename_i text hd
    cases h
    exact Utf8.encode_of_decode? hd
  · cases h

end SearchPath

/-! ## The CI file -/

namespace CiFile

/-- The line by which a later step of a job receives a search path. -/
def assignment (path : SearchPath) : Bytes := Utf8.encode "PATH=" ++ path.joined ++ [0x0A]

theorem line_eq_assignment {path : SearchPath} {value : String} (h : path.lineValue = .ok value) :
    line value = assignment path := by
  rw [line, Utf8.encode_append, Utf8.encode_append, SearchPath.encode_lineValue h]
  rfl

/-- What adding a search path can come to, and the disk that it leaves. -/
inductive Persisted (file : Option Path) (path : SearchPath) (disk : Disk) :
    Except Failure Unit → Disk → Prop where
  | refused {reason : String} : (∀ target value, file = some target → path.lineValue ≠ .ok value) →
      Persisted file path disk (.error (.writeUnavailable file reason)) disk
  | failed {target : Path} {value reason : String} {fault : IoFault} {after : Disk} :
      file = some target → path.lineValue = .ok value →
      disk.append target (assignment path) = (.error fault, after) →
      Persisted file path disk (.error (.writeUnavailable file reason)) after
  | added {target : Path} {value : String} {after : Disk} : file = some target →
      path.lineValue = .ok value → disk.append target (assignment path) = (.ok (), after) →
      Persisted file path disk (.ok ()) after

theorem persist_spec (file : Option Path) (path : SearchPath) (disk : Disk) :
    Persisted file path disk (persist file path disk).1 (persist file path disk).2 := by
  unfold persist
  cases file with
  | none => exact .refused (by simp)
  | some target =>
    cases hv : path.lineValue with
    | error failure => exact .refused (by simp [hv])
    | ok value =>
      simp only [line_eq_assignment hv]
      rcases ha : disk.append target (assignment path) with ⟨fault | done, after⟩
      · exact .failed rfl hv ha
      · exact .added rfl hv ha

theorem persisted_of_eq {file : Option Path} {path : SearchPath} {disk after : Disk}
    {result : Except Failure Unit} (h : persist file path disk = (result, after)) :
    Persisted file path disk result after := by
  have hspec := persist_spec file path disk
  rwa [h] at hspec

section Keeping

variable {file : Option Path} {path : SearchPath} {disk after : Disk} {result : Except Failure Unit}
  {l : Location}

/-- No file but the CI file changes, and where it stands is told by the disk afterwards. -/
theorem Persisted.keeps (h : Persisted file path disk result after)
    (hl : ∀ target node, file = some target → after.locate target ≠ .ok (l, node)) :
    after.node? l = disk.node? l := by
  cases h with
  | refused => rfl
  | failed hfile _ happend => exact (Disk.stored_of_eq happend).keeps fun node => hl _ node hfile
  | added hfile _ happend => exact (Disk.stored_of_eq happend).keeps fun node => hl _ node hfile

theorem Persisted.locate (h : Persisted file path disk result after) {other : Path} {node : Node}
    (hloc : disk.locate other = .ok (l, node))
    (hl : ∀ target node, file = some target → after.locate target ≠ .ok (l, node)) :
    after.locate other = .ok (l, node) := by
  cases h with
  | refused => exact hloc
  | failed hfile _ happend =>
    exact (Disk.stored_of_eq happend).locate hloc fun node => hl _ node hfile
  | added hfile _ happend =>
    exact (Disk.stored_of_eq happend).locate hloc fun node => hl _ node hfile

end Keeping

end CiFile

/-! ## The startup file -/

namespace StartupFile

open Disk

/-- A file in which the marker was looked for and not found: it is not there, or no line of its text
mentions the marker. -/
def Unmarked (disk : Disk) (path : Path) (marker : String) : Prop :=
  disk.pathExists path = false ∨
    ∃ text, disk.readText path = .ok text ∧ mentions text marker = false

/-- The disk with the directories above a file, as far as they can be made. -/
def prepared (disk : Disk) (path : Path) : Except IoFault Unit × Disk :=
  match path.parent? with
  | none => (.ok (), disk)
  | some parent => disk.makeDirectories parent

/-- What adding lines can come to, and the disk that it leaves. -/
inductive Ensured (path : Path) (marker : String) (added : List String) (disk : Disk) :
    Except Failure Update → Disk → Prop where
  | present {text : String} : disk.readText path = .ok text → mentions text marker = true →
      Ensured path marker added disk (.ok .alreadyPresent) disk
  | unreadable {fault : IoFault} : disk.pathExists path = true →
      disk.readText path = .error fault →
      Ensured path marker added disk (.error (.io fault)) disk
  | unprepared {fault : IoFault} {made : Disk} : Unmarked disk path marker →
      prepared disk path = (.error fault, made) →
      Ensured path marker added disk (.error (.io fault)) made
  | unwritten {fault : IoFault} {made after : Disk} : Unmarked disk path marker →
      prepared disk path = (.ok (), made) →
      made.append path (separator (contentOrNothing made path) ++ block added) =
        (.error fault, after) →
      Ensured path marker added disk (.error (.io fault)) after
  | appended {made written : Disk} : Unmarked disk path marker →
      prepared disk path = (.ok (), made) →
      made.append path (separator (contentOrNothing made path) ++ block added) = (.ok (), written) →
      Ensured path marker added disk (.ok .appended) written

/-- What looking for the marker can come to. -/
theorem containsMarker_cases (disk : Disk) (path : Path) (marker : String) :
    (∃ text, disk.readText path = .ok text ∧ mentions text marker = true ∧
        containsMarker disk path marker = .ok true) ∨
      (∃ fault, disk.pathExists path = true ∧ disk.readText path = .error fault ∧
        containsMarker disk path marker = .error (.io fault)) ∨
      Unmarked disk path marker ∧ containsMarker disk path marker = .ok false := by
  unfold containsMarker
  cases hp : disk.pathExists path with
  | false => exact Or.inr (Or.inr ⟨Or.inl hp, rfl⟩)
  | true =>
    cases ht : disk.readText path with
    | error fault => exact Or.inr (Or.inl ⟨fault, rfl, rfl, rfl⟩)
    | ok text =>
      cases hm : mentions text marker with
      | true => exact Or.inl ⟨text, rfl, hm, by simp [hm]⟩
      | false => exact Or.inr (Or.inr ⟨Or.inr ⟨text, ht, hm⟩, by simp [hm]⟩)

theorem ensureLines_of_unmarked {disk : Disk} {path : Path} {marker : String}
    (h : containsMarker disk path marker = .ok false) (added : List String) :
    ensureLines path marker added disk =
      match prepared disk path with
      | (.error fault, made) => (.error (.io fault), made)
      | (.ok (), made) =>
        match made.append path (separator (contentOrNothing made path) ++ block added) with
        | (.error fault, after) => (.error (.io fault), after)
        | (.ok (), written) => (.ok .appended, written) := by
  unfold ensureLines
  rw [h]
  rfl

theorem ensureLines_spec (path : Path) (marker : String) (added : List String) (disk : Disk) :
    Ensured path marker added disk (ensureLines path marker added disk).1
      (ensureLines path marker added disk).2 := by
  rcases containsMarker_cases disk path marker with ⟨text, ht, hm, hc⟩ | ⟨fault, hp, ht, hc⟩ |
    ⟨hu, hc⟩
  · simp only [ensureLines, hc]
    exact .present ht hm
  · simp only [ensureLines, hc]
    exact .unreadable hp ht
  · rw [ensureLines_of_unmarked hc]
    rcases hp : prepared disk path with ⟨fault | done, made⟩
    · exact .unprepared hu hp
    · dsimp only
      rcases ha : made.append path (separator (contentOrNothing made path) ++ block added) with
        ⟨fault | done, after⟩
      · exact .unwritten hu hp ha
      · exact .appended hu hp ha

theorem ensured_of_eq {path : Path} {marker : String} {added : List String} {disk after : Disk}
    {result : Except Failure Update} (h : ensureLines path marker added disk = (result, after)) :
    Ensured path marker added disk result after := by
  have hspec := ensureLines_spec path marker added disk
  rwa [h] at hspec

theorem prepared_extends {disk made : Disk} {path : Path} {result : Except IoFault Unit}
    (h : prepared disk path = (result, made)) : Extends disk made := by
  unfold prepared at h
  split at h
  · cases h
    exact .refl disk
  · rename_i parent _
    have hup := makeDirectories_extends disk parent
    rwa [h] at hup

theorem readText_ok {disk : Disk} {path : Path} {text : String}
    (h : disk.readText path = .ok text) :
    ∃ data, disk.read path = .ok data ∧ Utf8.decode? data = some text := by
  unfold readText at h
  split at h
  · cases h
  rename_i data hread
  split at h
  · rename_i decoded hd
    cases h
    exact ⟨data, hread, hd⟩
  · cases h

theorem decode?_of_readText {disk : Disk} {path : Path} {data : Bytes} {text : String}
    (hread : disk.read path = .ok data) (h : disk.readText path = .ok text) :
    Utf8.decode? data = some text := by
  obtain ⟨data', hread', hd⟩ := readText_ok h
  rw [hread] at hread'
  cases hread'
  exact hd

theorem readText_error {disk : Disk} {path : Path} {data : Bytes} {fault : IoFault}
    (hread : disk.read path = .ok data) (h : disk.readText path = .error fault) :
    fault = .notUtf8 ∧ Utf8.decode? data = none := by
  rw [readText, hread] at h
  dsimp only at h
  split at h
  · cases h
  · rename_i hd
    cases h
    exact ⟨rfl, hd⟩

section Consequences

variable {path : Path} {marker : String} {added : List String} {disk after : Disk}
  {result : Except Failure Update}

theorem Ensured.keeps (h : Ensured path marker added disk result after) {l : Location}
    (hl : ∀ node, after.locate path ≠ .ok (l, node)) : Keeps disk after l := by
  cases h with
  | present => exact .refl disk l
  | unreadable => exact .refl disk l
  | unprepared _ hp => exact (prepared_extends hp).2 l
  | unwritten _ hp ha =>
    exact ((prepared_extends hp).2 l).trans (Or.inl ((stored_of_eq ha).keeps hl))
  | appended _ hp ha =>
    exact ((prepared_extends hp).2 l).trans (Or.inl ((stored_of_eq ha).keeps hl))

theorem infix_block {line : String} {added : List String} (h : line ∈ added) :
    Utf8.encode line <:+: block added :=
  (List.prefix_append _ _).isInfix.trans (infix_flatMap (fun text => Utf8.encode text ++ [0x0A]) h)

theorem Ensured.holds {update : Update} (h : Ensured path marker added disk (.ok update) after)
    (hadded : ∃ text ∈ added, marker.toList <:+: text.toList) :
    ∃ data, after.read path = .ok data ∧ Utf8.encode marker <:+: data := by
  cases h with
  | present ht hm =>
    obtain ⟨data, hread, hd⟩ := readText_ok ht
    refine ⟨data, hread, ?_⟩
    obtain ⟨line, hline, hin⟩ := List.any_eq_true.mp hm
    rw [← Utf8.encode_of_decode? hd]
    exact Utf8.infix_encode (((occursIn_iff _ _).mp hin).trans (infix_of_mem_lines hline))
  | appended _ _ ha =>
    refine ⟨_, read_appended ha, ?_⟩
    obtain ⟨text, htext, hin⟩ := hadded
    have hblock : Utf8.encode marker <:+: block added :=
      (Utf8.infix_encode hin).trans (infix_block htext)
    exact hblock.trans ((List.suffix_append _ _).trans (List.suffix_append _ _)).isInfix

/-- A text that stands on one line. -/
structure IsMarker (marker : String) : Prop where
  nonempty : marker.toList ≠ []
  noFeed : '\n' ∉ marker.toList
  noReturn : '\r' ∉ marker.toList

theorem mentions_iff {marker text : String} (hm : IsMarker marker) :
    mentions text marker = true ↔ marker.toList <:+: text.toList := by
  rw [← exists_line_iff hm.nonempty hm.noFeed hm.noReturn, mentions, List.any_eq_true]
  simp only [occursIn_iff]

theorem mentions_of_holds {marker text : String} (hm : IsMarker marker)
    (h : Utf8.encode marker <:+: Utf8.encode text) : mentions text marker = true :=
  (mentions_iff hm).mpr (Utf8.infix_encode_iff.mp h)

theorem Unmarked.text (h : Unmarked disk path marker) {l : Location} {data : Bytes} {mode : Bool}
    (hloc : disk.locate path = .ok (l, .file data mode)) :
    ∃ text, Utf8.decode? data = some text ∧ mentions text marker = false := by
  rcases h with hgone | ⟨text, htext, hm⟩
  · rw [pathExists, hloc] at hgone
    cases hgone
  · exact ⟨text, decode?_of_readText (read_of_locate hloc) htext, hm⟩

end Consequences

/-! ## Text in the startup file -/

/-- What stands at a path has been seen by the time that lines are added to it: it was there when
the marker was looked for, or it is not there once the directories above it are made. -/
def Seen (disk : Disk) (path : Path) : Prop :=
  disk.pathExists path = true ∨ (prepared disk path).2.pathExists path = false

theorem block_eq (added : List String) : ∃ text, block added = Utf8.encode text := by
  induction added with
  | nil => exact ⟨"", rfl⟩
  | cons line rest ih =>
    obtain ⟨text, htext⟩ := ih
    refine ⟨line ++ "\n" ++ text, ?_⟩
    rw [Utf8.encode_append, Utf8.encode_append, ← htext]
    rfl

theorem separator_eq (old : Bytes) : ∃ text, separator old = Utf8.encode text := by
  unfold separator
  split
  · exact ⟨"\n", rfl⟩
  · exact ⟨"", rfl⟩

/-- A startup file that was updated, or needed no update, is a text if it was seen before. -/
theorem Ensured.isText {path : Path} {marker : String} {added : List String} {disk after : Disk}
    {update : Update} (h : Ensured path marker added disk (.ok update) after)
    (hseen : Seen disk path) {data : Bytes} (hread : after.read path = .ok data) :
    (Utf8.decode? data).isSome = true := by
  cases h with
  | present ht _ =>
    rw [decode?_of_readText hread ht]
    rfl
  | @appended made _ hu hp ha =>
    have hold : ∃ text, contentOrNothing made path = Utf8.encode text := by
      unfold contentOrNothing
      rcases hseen with hthere | hgone
      · rcases hu with hnot | ⟨text, ht, _⟩
        · rw [hthere] at hnot
          cases hnot
        obtain ⟨data', hread', hd⟩ := readText_ok ht
        rw [(prepared_extends hp).read hread']
        exact ⟨text, (Utf8.encode_of_decode? hd).symm⟩
      · rw [hp] at hgone
        cases hm : made.read path with
        | error fault => exact ⟨"", rfl⟩
        | ok data' =>
          rw [pathExists_of_read hm] at hgone
          cases hgone
    rw [read_appended ha] at hread
    cases hread
    obtain ⟨old, hold⟩ := hold
    obtain ⟨sep, hsep⟩ := separator_eq (contentOrNothing made path)
    obtain ⟨lines, hlines⟩ := block_eq added
    rw [hsep, hlines, hold, ← Utf8.encode_append, ← Utf8.encode_append, Utf8.decode?_encode]
    rfl

/-! ## Adding the same lines again -/

section Again

variable {path : Path} {marker : String} {added : List String} {disk after later : Disk}
  {l : Location} {data : Bytes} {mode : Bool}

theorem not_unmarked_of_holds (hm : IsMarker marker) (hholds : Utf8.encode marker <:+: data)
    (hloc : disk.locate path = .ok (l, .file data mode)) : ¬ Unmarked disk path marker := by
  intro hu
  obtain ⟨text, htext, hnot⟩ := hu.text hloc
  rw [← Utf8.encode_of_decode? htext] at hholds
  rw [mentions_of_holds hm hholds] at hnot
  cases hnot

theorem not_unmarked_of_not_text (htext : Utf8.decode? data = none)
    (hloc : disk.locate path = .ok (l, .file data mode)) : ¬ Unmarked disk path marker := by
  intro hu
  obtain ⟨text, hsome, -⟩ := hu.text hloc
  rw [htext] at hsome
  cases hsome

theorem Ensured.not_unmarked {update : Update}
    (h : Ensured path marker added disk (.ok update) after) (hm : IsMarker marker)
    (hadded : ∃ text ∈ added, marker.toList <:+: text.toList)
    (hloc : after.locate path = .ok (l, .file data mode))
    (hlater : later.locate path = .ok (l, .file data mode)) : ¬ Unmarked later path marker := by
  obtain ⟨data', hread, hholds⟩ := h.holds hadded
  have hdata : data' = data := by
    rw [read_of_locate hloc] at hread
    exact (Except.ok.inj hread).symm
  exact not_unmarked_of_holds hm (hdata ▸ hholds) hlater

theorem ensureLines_of_marked (h : ¬ Unmarked disk path marker) (hread : disk.read path = .ok data)
    (added : List String) : ensureLines path marker added disk =
      (if (Utf8.decode? data).isSome then .ok .alreadyPresent else .error (.io .notUtf8),
        disk) := by
  rcases containsMarker_cases disk path marker with ⟨text, ht, -, hc⟩ | ⟨fault, -, ht, hc⟩ | ⟨hu, -⟩
  · rw [decode?_of_readText hread ht]
    simp only [ensureLines, hc]
    rfl
  · obtain ⟨rfl, hnone⟩ := readText_error hread ht
    rw [hnone]
    simp only [ensureLines, hc]
    rfl
  · exact absurd hu h

end Again

end StartupFile

theorem Manager.startupMarker_isMarker (shell : Shell) :
    StartupFile.IsMarker (Manager.startupMarker shell) := by
  cases shell <;> exact ⟨by decide, by decide, by decide⟩

theorem Manager.marker_in_startupLines (m : Manager) (shell : Shell) :
    ∃ text ∈ m.startupLines shell, (Manager.startupMarker shell).toList <:+: text.toList := by
  cases shell with
  | zsh => exact ⟨_, List.mem_cons_self, ". \"".toList ++ m.dir.display.toList ++ ['/'], ['"'], by
      simp [Manager.startupMarker]⟩
  | bash => exact ⟨_, List.mem_cons_self, ". \"".toList ++ m.dir.display.toList ++ ['/'], ['"'], by
      simp [Manager.startupMarker]⟩
  | fish => exact ⟨_, List.mem_cons_self, "source \"".toList ++ m.dir.display.toList ++ ['/'],
      ['"'], by simp [Manager.startupMarker]⟩

end ToolBootstrap
