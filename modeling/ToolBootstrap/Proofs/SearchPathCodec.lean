import ToolBootstrap.Environment
import ToolBootstrap.Proofs.Persistence

/- Search paths and their written forms.

   A path has a written form exactly if no entry holds a colon, and is read back from it unless an
   entry is empty, which reading drops (`ofOctets_joined`). What is read never has such entries, so
   reading is undone by writing up to empty pieces. The directories of the manager are no such
   entries either where the manager's own directory holds no colon: a later step that reads the
   persisted path and extends it by them once more is left with the same path (`codec_law`). -/

namespace ToolBootstrap

/-! ## Joined paths -/

namespace Path

theorem mem_join {p q : Path} {x : UInt8} (h : x ∈ (p.join q).octets) :
    x ∈ p.octets ∨ x = slash ∨ x ∈ q.octets := by
  unfold join at h
  split at h
  · exact Or.inr (Or.inr h)
  split at h
  · exact (List.mem_append.mp h).imp_right Or.inr
  · exact (List.mem_append.mp h).imp_right List.mem_cons.mp

theorem join_ne_nil (p : Path) {q : Path} (h : q.octets ≠ []) : (p.join q).octets ≠ [] := by
  unfold join
  split
  · exact h
  split
  · exact List.append_ne_nil_of_right_ne_nil _ h
  · exact List.append_ne_nil_of_right_ne_nil _ (List.cons_ne_nil _ _)

end Path

namespace SearchPath

/-! ## Writing -/

/-- Entries that a written form keeps apart: none is empty, and none holds a colon. -/
def Separable (path : SearchPath) : Prop :=
  ∀ entry ∈ path.entries, entry.octets ≠ [] ∧ colon ∉ entry.octets

theorem written_of_free {path : SearchPath} (h : ∀ entry ∈ path.entries, colon ∉ entry.octets) :
    path.written = .ok path.joined := by
  refine if_neg fun hany => ?_
  obtain ⟨entry, hentry, hmem⟩ := List.any_eq_true.mp hany
  exact h entry hentry (by simpa using hmem)

theorem written_error_iff (path : SearchPath) : (∃ failure, path.written = .error failure) ↔
    ∃ entry ∈ path.entries, colon ∈ entry.octets := by
  constructor
  · intro ⟨failure, h⟩
    -- Without a colon in any entry there is a written form, and so no failure.
    by_contra hnone
    rw [written_of_free fun entry hentry hmem => hnone ⟨entry, hentry, hmem⟩] at h
    cases h
  · intro ⟨entry, hentry, hmem⟩
    exact ⟨_, if_pos (List.any_eq_true.mpr ⟨entry, hentry, by simpa using hmem⟩)⟩

theorem lineValue_error_iff (path : SearchPath) : (∃ failure, path.lineValue = .error failure) ↔
    (∃ failure, path.written = .error failure) ∨ ∀ text, Utf8.encode text ≠ path.joined := by
  cases hw : path.written with
  | error failure => simp [lineValue, hw]
  | ok octets =>
    obtain rfl := written_eq_joined hw
    cases hd : Utf8.decode? path.joined with
    | some text =>
      have hencoded : ∃ text, Utf8.encode text = path.joined := ⟨text, Utf8.encode_of_decode? hd⟩
      simpa [lineValue, hw, hd] using hencoded
    | none =>
      have hno : ∀ text, Utf8.encode text ≠ path.joined := by
        intro text htext
        rw [← htext, Utf8.decode?_encode] at hd
        cases hd
      simpa [lineValue, hw, hd] using hno

/-! ## Reading -/

theorem ofOctets_separable (octets : Bytes) : (ofOctets octets).Separable := by
  intro entry hentry
  obtain ⟨run, hrun, rfl⟩ := List.mem_map.mp hentry
  obtain ⟨hpiece, hne⟩ := List.mem_filter.mp hrun
  exact ⟨by simpa using hne, not_mem_of_mem_splitOn run hpiece⟩

theorem joined_ofOctets (octets : Bytes) : (ofOctets octets).joined =
    [colon].intercalate ((octets.splitOn colon).filter (· ≠ [])) := by
  rw [joined, ofOctets, List.map_map]
  exact congrArg _ (List.map_id' _)

theorem ofOctets_joined {path : SearchPath} (h : path.Separable) : ofOctets path.joined = path := by
  have hfree : ∀ run ∈ path.entries.map Path.octets, colon ∉ run := by
    intro run hrun
    obtain ⟨entry, hentry, rfl⟩ := List.mem_map.mp hrun
    exact (h entry hentry).2
  have hkept : (path.entries.map Path.octets).filter (· ≠ []) = path.entries.map Path.octets := by
    refine List.filter_eq_self.mpr fun run hrun => ?_
    obtain ⟨entry, hentry, rfl⟩ := List.mem_map.mp hrun
    simpa using (h entry hentry).1
  have hruns : (path.joined.splitOn colon).filter (· ≠ []) = path.entries.map Path.octets :=
    (filter_splitOn_intercalate colon hfree).trans hkept
  rw [ofOctets, hruns, List.map_map]
  exact congrArg SearchPath.mk (List.map_id' _)

/-! ## Extending -/

theorem extended_of_contains {path : SearchPath} {dirs : List Path}
    (h : ∀ dir ∈ dirs, path.contains dir = true) : path.extended dirs = path := by
  unfold extended
  induction dirs with
  | nil => rfl
  | cons dir rest ih =>
    rw [List.foldl_cons, add, if_pos (h dir List.mem_cons_self)]
    exact ih fun other hother => h other (List.mem_cons_of_mem dir hother)

theorem extended_again (path : SearchPath) (dirs : List Path) :
    (path.extended dirs).extended dirs = path.extended dirs :=
  extended_of_contains fun _ h => contains_extended path h

theorem mem_extended {path : SearchPath} {dirs : List Path} {entry : Path}
    (h : entry ∈ (path.extended dirs).entries) : entry ∈ path.entries ∨ entry ∈ dirs := by
  induction dirs generalizing path with
  | nil => exact Or.inl h
  | cons dir rest ih =>
    have hsplit : entry ∈ (path.add dir).entries ∨ entry ∈ rest := ih h
    rcases hsplit with hadded | hrest
    · rcases path.add_cases dir with ⟨-, hadd⟩ | ⟨-, hadd⟩
      · exact Or.inl (hadd ▸ hadded)
      · rw [hadd] at hadded
        rcases List.mem_append.mp hadded with hold | hnew
        · exact Or.inl hold
        · exact Or.inr (List.mem_singleton.mp hnew ▸ List.mem_cons_self)
    · exact Or.inr (List.mem_cons_of_mem dir hrest)

theorem Separable.extended {path : SearchPath} (h : path.Separable) {dirs : List Path}
    (hdirs : ∀ dir ∈ dirs, dir.octets ≠ [] ∧ colon ∉ dir.octets) :
    (path.extended dirs).Separable := by
  intro entry hentry
  rcases mem_extended hentry with hold | hnew
  · exact h entry hold
  · exact hdirs entry hnew

theorem pathDirs_separable {m : Manager} (h : colon ∉ m.dir.octets) :
    ∀ dir ∈ m.pathDirs, dir.octets ≠ [] ∧ colon ∉ dir.octets := by
  have hchild : ∀ name, (Path.ofText name).octets ≠ [] → colon ∉ (Path.ofText name).octets →
      (m.dir.child name).octets ≠ [] ∧ colon ∉ (m.dir.child name).octets := by
    intro name hne hfree
    refine ⟨Path.join_ne_nil m.dir hne, fun hmem => ?_⟩
    rcases Path.mem_join hmem with hdir | hslash | hname
    · exact h hdir
    · exact absurd hslash (by decide)
    · exact hfree hname
  intro dir hdir
  simp only [Manager.pathDirs, List.mem_cons, List.not_mem_nil, or_false] at hdir
  rcases hdir with rfl | rfl
  · exact hchild "bin" (by decide) (by decide)
  · exact hchild "shims" (by decide) (by decide)

theorem read_persisted {file : Path} {path : SearchPath} {disk after : Disk}
    (h : CiFile.persist (some file) path disk = (.ok (), after)) :
    ∃ old, after.read file = .ok (old ++ Utf8.encode "PATH=" ++ path.joined ++ [0x0A]) := by
  cases CiFile.persisted_of_eq h with
  | added hfile _ happend =>
    cases hfile
    refine ⟨StartupFile.contentOrNothing disk file, ?_⟩
    simpa only [CiFile.assignment, List.append_assoc] using Disk.read_appended happend

/-! ## The law -/

/-- Reading and writing of search paths. What is read has a written form, which is what was read but
for empty pieces, and is read as the same entries. A path is refused exactly for an entry that holds
a colon, and a line for that or for octets that encode no text. A path that was read and extended by
the directories of a manager without a colon is read back from its written form, which is what a
line and the CI file hold, and extending it again changes nothing. -/
theorem codec_law :
    (∀ octets, (∀ entry ∈ (ofOctets octets).entries, entry.octets ≠ [] ∧ colon ∉ entry.octets) ∧
      ∃ written, (ofOctets octets).written = .ok written ∧
        written = [colon].intercalate ((octets.splitOn colon).filter (· ≠ [])) ∧
        ofOctets written = ofOctets octets) ∧
    (∀ path : SearchPath,
      ((∃ failure, path.written = .error failure) ↔
        ∃ entry ∈ path.entries, colon ∈ entry.octets) ∧
      ((∃ failure, path.lineValue = .error failure) ↔
        (∃ failure, path.written = .error failure) ∨
          ∀ text, Utf8.encode text ≠ [colon].intercalate (path.entries.map Path.octets))) ∧
    ∀ (octets : Bytes) (m : Manager), colon ∉ m.dir.octets →
      let path := (ofOctets octets).extended m.pathDirs
      ∃ written, path.written = .ok written ∧
        (∀ value, path.lineValue = .ok value → Utf8.encode value = written) ∧
        (∀ file disk after, CiFile.persist (some file) path disk = (.ok (), after) →
          ∃ old, after.read file = .ok (old ++ Utf8.encode "PATH=" ++ written ++ [0x0A])) ∧
        ofOctets written = path ∧ (ofOctets written).extended m.pathDirs = path ∧
        ∀ env : Environment, env.get? "PATH" = some written →
          env.searchPath.extended m.pathDirs = path := by
  refine ⟨fun octets => ?_, fun path => ⟨path.written_error_iff, path.lineValue_error_iff⟩,
    fun octets m hdir => ?_⟩
  · have hseparable := ofOctets_separable octets
    exact ⟨hseparable, _, written_of_free fun entry hentry => (hseparable entry hentry).2,
      joined_ofOctets octets, ofOctets_joined hseparable⟩
  · intro path
    -- Neither what was read nor what is added is empty or holds a colon.
    have hseparable : path.Separable :=
      (ofOctets_separable octets).extended (pathDirs_separable hdir)
    have hread : ofOctets path.joined = path := ofOctets_joined hseparable
    have hagain : path.extended m.pathDirs = path := extended_again _ _
    refine ⟨path.joined, written_of_free fun entry hentry => (hseparable entry hentry).2,
      fun value hvalue => encode_lineValue hvalue, fun file disk after hok => read_persisted hok,
      hread, by rw [hread, hagain], fun env henv => ?_⟩
    rw [Environment.searchPath, henv]
    dsimp only
    rw [hread, hagain]

/-- A path with empty pieces and with one of the directories in another spelling: the other
directory is added, and both are recognised when the path is read again. -/
theorem codec_law_other_spelling :
    let m : Manager := ⟨"", "", .ofText "/asdf"⟩
    let path := (ofOctets (Utf8.encode "/usr/bin::/asdf//bin/:")).extended m.pathDirs
    let written := Utf8.encode "/usr/bin:/asdf//bin/:/asdf/shims"
    path.written = .ok written ∧ (ofOctets written).extended m.pathDirs = path := by
  intro m path written
  have hwritten : path.written = .ok written := by decide +kernel
  obtain ⟨octets, hok, _, _, _, hagain, _⟩ :=
    codec_law.2.2 (Utf8.encode "/usr/bin::/asdf//bin/:") m (by decide)
  obtain rfl : octets = written := Except.ok.inj (hok.symm.trans hwritten)
  exact ⟨hok, hagain⟩

end SearchPath

end ToolBootstrap
