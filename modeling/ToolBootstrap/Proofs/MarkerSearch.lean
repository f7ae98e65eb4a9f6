import ToolBootstrap.Proofs.LineFile

/- Looking for a marker in the startup file.

   The file is searched line by line, and a line has lost its line feed and the carriage return
   before it. A marker holds neither, so it is found on a line exactly where it stands in the whole
   text, and exactly where its octets stand in the file (`containsMarker_of_text`). What the search
   reads is only ever added to: a file that holds a marker holds it after any later calls, and is a
   text then if it is one now (`Held.onward`). So lines with a marker that were added once are not
   added again (`marker_found`). -/

namespace ToolBootstrap.StartupFile

open Disk

variable {path : Path} {marker : String} {disk after : Disk}

/-! ## One search -/

theorem readText_of_text {data : Bytes} {text : String} (hread : disk.read path = .ok data)
    (htext : Utf8.decode? data = some text) : disk.readText path = .ok text := by
  simp only [readText, hread, htext]

theorem readText_of_not_text {data : Bytes} (hread : disk.read path = .ok data)
    (htext : Utf8.decode? data = none) : disk.readText path = .error .notUtf8 := by
  simp only [readText, hread, htext]

theorem containsMarker_of_text (hm : IsMarker marker) {data : Bytes} {text : String}
    (hread : disk.read path = .ok data) (htext : Utf8.decode? data = some text) :
    ∃ found, containsMarker disk path marker = .ok found ∧
      (found = true ↔ marker.toList <:+: text.toList) ∧
      (found = true ↔ Utf8.encode marker <:+: data) := by
  refine ⟨mentions text marker, ?_, mentions_iff hm, ?_⟩
  · simp only [containsMarker, if_pos (pathExists_of_read hread), readText_of_text hread htext]
  · rw [mentions_iff hm, ← Utf8.encode_of_decode? htext, Utf8.infix_encode_iff]

/-! ## Later calls -/

/-- A startup file holds a marker, and is a text or not. -/
def Held (isText : Bool) (disk : Disk) (path : Path) (marker : String) : Prop :=
  ∃ data, disk.read path = .ok data ∧ Utf8.encode marker <:+: data ∧
    (Utf8.decode? data).isSome = isText

/-- How the disk may go on while no one else writes to the startup file: calls for whatever markers
succeed, and other files change. -/
inductive Onward (path : Path) : Disk → Disk → Prop where
  | refl (disk : Disk) : Onward path disk disk
  | call {disk later after : Disk} {marker : String} {added : List String} {update : Update} :
      Onward path disk later → ensureLines path marker added later = (.ok update, after) →
      Onward path disk after
  | elsewhere {disk later next : Disk} : Onward path disk later →
      next.read path = later.read path → Onward path disk next

theorem ensureLines_of_not_text {data : Bytes} (hread : disk.read path = .ok data)
    (htext : Utf8.decode? data = none) (marker : String) (added : List String) :
    ensureLines path marker added disk = (.error (.io .notUtf8), disk) := by
  have hsearch : containsMarker disk path marker = .error (.io .notUtf8) := by
    simp only [containsMarker, if_pos (pathExists_of_read hread), readText_of_not_text hread htext]
  rw [ensureLines, hsearch]

theorem Ensured.text_again {added : List String} {update : Update}
    (h : Ensured path marker added disk (.ok update) after) {data : Bytes}
    (hread : disk.read path = .ok data) :
    ∃ data', after.read path = .ok data' ∧ (Utf8.decode? data').isSome = true := by
  obtain ⟨more, hmore⟩ := h.read_grows hread
  exact ⟨_, hmore, h.isText (Or.inl (pathExists_of_read hread)) hmore⟩

/-- A marker that is held is held after one more call. -/
theorem Held.call {isText : Bool} (h : Held isText disk path marker) {other : String}
    {added : List String} {update : Update}
    (hran : ensureLines path other added disk = (.ok update, after)) :
    Held isText after path marker := by
  obtain ⟨data, hread, hmark, htext⟩ := h
  cases isText with
  | false =>
    have hnone : Utf8.decode? data = none := by simpa using htext
    rw [ensureLines_of_not_text hread hnone] at hran
    cases hran
  | true =>
    have hensured := ensured_of_eq hran
    obtain ⟨data', hread', htext'⟩ := hensured.text_again hread
    obtain ⟨again, hagain, hmark'⟩ := hensured.holds_again ⟨data, hread, hmark⟩
    rw [hread'] at hagain
    cases hagain
    exact ⟨data', hread', hmark', htext'⟩

theorem Held.onward {isText : Bool} {later : Disk} (h : Held isText disk path marker)
    (hon : Onward path disk later) : Held isText later path marker := by
  induction hon with
  | refl => exact h
  | call _ hran ih => exact ih.call hran
  | elsewhere _ hsame ih =>
    obtain ⟨data, hread, hrest⟩ := ih
    exact ⟨data, hsame.trans hread, hrest⟩

theorem Held.ensureLines_eq {isText : Bool} (h : Held isText disk path marker)
    (hm : IsMarker marker) (added : List String) : ensureLines path marker added disk =
      (if isText then .ok .alreadyPresent else .error (.io .notUtf8), disk) := by
  obtain ⟨data, hread, hmark, rfl⟩ := h
  obtain ⟨l, mode, hloc⟩ := read_ok_iff.mp hread
  exact ensureLines_of_marked (not_unmarked_of_holds hm hmark hloc) hread added

/-- A marker is found in a text file exactly if it stands in the text, whatever ends its lines.
Where lines with the marker have been added, no later call adds or changes anything for it. It finds
the marker, unless the file is no text; and it is one if what stands at the path was seen by the
call that added the lines. -/
theorem marker_found {marker : String} (hm : IsMarker marker) (path : Path) (disk : Disk) :
    (∀ data text, disk.read path = .ok data → Utf8.decode? data = some text →
      ∃ found, containsMarker disk path marker = .ok found ∧
        (found = true ↔ marker.toList <:+: text.toList) ∧
        (found = true ↔ Utf8.encode marker <:+: data)) ∧
    ∀ added after, (∃ line ∈ added, marker.toList <:+: line.toList) →
      ensureLines path marker added disk = (.ok .appended, after) →
      ∃ data, after.read path = .ok data ∧ ∀ later, Onward path after later → ∀ more,
        (Seen disk path → ensureLines path marker more later = (.ok .alreadyPresent, later)) ∧
        ensureLines path marker more later =
          (if (Utf8.decode? data).isSome then .ok .alreadyPresent else .error (.io .notUtf8),
            later) := by
  refine ⟨fun data text hread htext => containsMarker_of_text hm hread htext, ?_⟩
  intro added after hadded happended
  have hensured := ensureLines_spec path marker added disk
  rw [happended] at hensured
  obtain ⟨data, hread, hmark⟩ := hensured.holds hadded
  refine ⟨data, hread, fun later hon more => ?_⟩
  have hheld : Held (Utf8.decode? data).isSome after path marker := ⟨data, hread, hmark, rfl⟩
  have hlater := (hheld.onward hon).ensureLines_eq hm more
  refine ⟨fun hseen => ?_, hlater⟩
  rwa [hensured.isText hseen hread] at hlater

/-- A marker that a line end divides is not found; once a line with it is added it is, also after a
call for another marker. -/
theorem marker_found_beyond_ascii :
    let path : Path := .ofText "rc"
    let disk : Disk :=
      .ofEntries [([Utf8.encode "rc"], .file (Utf8.encode "# caf\r\né\r") false)]
    IsMarker "café" ∧ disk.read path = .ok (Utf8.encode "# caf\r\né\r") ∧
      containsMarker disk path "café" = .ok false ∧
      ∃ after, ensureLines path "café" ["# café"] disk = (.ok .appended, after) ∧
        let later := (ensureLines path "asdf.fish" ["source asdf.fish"] after).2
        ensureLines path "café" [] later = (.ok .alreadyPresent, later) := by
  intro path disk
  have hm : IsMarker "café" := ⟨by decide, by decide, by decide⟩
  have hread : disk.read path = .ok (Utf8.encode "# caf\r\né\r") := by decide +kernel
  have hran : ensureLines path "café" ["# café"] disk =
      (.ok .appended, (ensureLines path "café" ["# café"] disk).2) :=
    Prod.ext (by decide +kernel) rfl
  obtain ⟨hsearch, hadds⟩ := marker_found hm path disk
  obtain ⟨found, hfound, htext, -⟩ := hsearch _ _ hread (Utf8.decode?_encode _)
  obtain ⟨data, -, hlater⟩ := hadds _ _ ⟨"# café", by simp, ['#', ' '], [], by decide⟩ hran
  refine ⟨hm, hread, ?_, _, hran, ?_⟩
  · have hnot : found ≠ true := fun h => absurd (htext.mp h) (by decide)
    rw [hfound, Bool.not_eq_true _ |>.mp hnot]
  · have hfirst : (ensureLines path "asdf.fish" ["source asdf.fish"]
        (ensureLines path "café" ["# café"] disk).2).1 = .ok .appended := by decide +kernel
    -- The call is named, so that it is not run once more.
    generalize (ensureLines path "café" ["# café"] disk).2 = after at hlater hfirst ⊢
    have hother : ensureLines path "asdf.fish" ["source asdf.fish"] after = (.ok .appended,
        (ensureLines path "asdf.fish" ["source asdf.fish"] after).2) := Prod.ext hfirst rfl
    exact (hlater _ (.call (.refl _) hother) []).1 (Or.inl (pathExists_of_read hread))

end ToolBootstrap.StartupFile
