import ToolBootstrap.Proofs.DocumentLines
import ToolBootstrap.Proofs.Persistence
import ToolBootstrap.Receipt

/- Receipts are read back as they were kept.

   The text of a receipt is one key line for each of its own fields and one section for each tool,
   so it says what the receipt holds (`render?_says`) and is read as it (`ofText_render`). The whole
   text is known before the file is opened, so what cannot be said in a text costs nothing. But
   opening the file empties it: where its writing breaks off, the receipt that was there is lost
   (`save_load`, `save_breaks_off`). -/

namespace ToolBootstrap

open Toml

def ToolReceipt.fields (tool : ToolReceipt) : Entries :=
  [("name", .string tool.name), ("version", .string tool.version),
   ("status", .string tool.status.word), ("detail", .string tool.detail)]

namespace Receipt

def fields (receipt : Receipt) (dir : String) : Entries :=
  [("version", .integer receipt.format), ("finished_at", .string receipt.finishedAt),
   ("manager_dir", .string dir), ("manager_version", .string receipt.managerVersion)]

/-! ## What the text says -/

section Lines

variable {rest : List Char} {statements : List Statement}

theorem says_textLine (name text : String) (hname : IsBare name) (h : Says rest statements) :
    Says (textLine name text ++ rest) (.pair ⟨[], name, .string text⟩ :: statements) :=
  h.key hname (writes_string text)

theorem says_toolLines (tool : ToolReceipt) (h : Says rest statements) :
    Says (toolLines tool ++ rest)
      (.header ⟨true, [], "tools"⟩ :: keyStatements tool.fields ++ statements) := by
  have hdetail := says_textLine "detail" tool.detail (by decide) h
  have hstatus := says_textLine "status" tool.status.word (by decide) hdetail
  have hversion := says_textLine "version" tool.version (by decide) hstatus
  have hname := says_textLine "name" tool.name (by decide) hversion
  have hheader : Says (headerLine "tools" ++ _) _ := hname.header (by decide)
  have hlines : toolLines tool ++ rest = '\n' :: (headerLine "tools" ++
      (textLine "name" tool.name ++ (textLine "version" tool.version ++
        (textLine "status" tool.status.word ++ (textLine "detail" tool.detail ++ rest))))) := by
    have hstart : "\n[[tools]]\n".toList = '\n' :: headerLine "tools" := rfl
    unfold toolLines
    rw [hstart]
    simp only [List.append_assoc, List.cons_append]
  rw [hlines]
  exact hheader.blankLine

theorem says_tools (tools : List ToolReceipt) :
    Says (tools.flatMap toolLines) (tableStatements "tools" (tools.map ToolReceipt.fields)) := by
  induction tools with
  | nil => exact says_nothing
  | cons tool tools ih => exact says_toolLines tool ih

end Lines

def statements (receipt : Receipt) (dir : String) : List Statement :=
  if receipt.tools.isEmpty then keyStatements (receipt.fields dir ++ [("tools", .array false [])])
  else keyStatements (receipt.fields dir) ++
    tableStatements "tools" (receipt.tools.map ToolReceipt.fields)

theorem render?_says {receipt : Receipt} (hformat : receipt.format < twoTo 32) {text : String}
    (h : receipt.render? = some text) : ∃ dir, receipt.managerDir.text? = some dir ∧
      Says text.toList (receipt.statements dir) ∧ text.toList.head? = some 'v' := by
  unfold render? at h
  split at h
  · cases h
  rename_i dir hdir
  refine ⟨dir, hdir, ?_⟩
  have hhead : ∀ {rest : List Char} {more : List Statement}, Says rest more →
      Says (keyLine "version" (Nat.toDigits 10 receipt.format) ++
        (textLine "finished_at" receipt.finishedAt ++ (textLine "manager_dir" dir ++
          (textLine "manager_version" receipt.managerVersion ++ rest))))
        (keyStatements (receipt.fields dir) ++ more) := by
    intro rest more hrest
    have hmanager := says_textLine "manager_version" receipt.managerVersion
      (by decide) hrest
    have hplace := says_textLine "manager_dir" dir (by decide) hmanager
    have hfinished := says_textLine "finished_at" receipt.finishedAt (by decide) hplace
    exact hfinished.key (by decide) (writes_natural hformat)
  obtain rfl := Option.some.inj h
  rw [String.toList_ofList]
  constructor
  · have hsplit : ∀ rest, "version = ".toList ++ Nat.toDigits 10 receipt.format ++ ['\n'] ++
        textLine "finished_at" receipt.finishedAt ++ textLine "manager_dir" dir ++
        textLine "manager_version" receipt.managerVersion ++ rest =
        keyLine "version" (Nat.toDigits 10 receipt.format) ++
          (textLine "finished_at" receipt.finishedAt ++ (textLine "manager_dir" dir ++
            (textLine "manager_version" receipt.managerVersion ++ rest))) := by
      intro rest
      have hstart : "version = ".toList = "version".toList ++ [' ', '=', ' '] := rfl
      rw [hstart, keyLine]
      simp only [List.append_assoc]
    have hnone : Says "tools = []\n".toList (keyStatements [("tools", .array false [])]) :=
      Says.key says_nothing (by decide : IsBare "tools") writes_nothing
    rw [hsplit, statements]
    split
    · exact hhead hnone
    · exact hhead (says_tools receipt.tools)
  · rfl

/-! ## What is read -/

theorem toolOfValue_fields (tool : ToolReceipt) :
    toolOfValue (.table .header tool.fields) = .ok tool := by
  obtain ⟨name, version, status, detail⟩ := tool
  cases status <;> rfl

theorem each_tools (tools : List ToolReceipt) :
    Shape.each toolOfValue ((tools.map ToolReceipt.fields).map (Value.table .header)) =
      .ok tools := by
  induction tools with
  | nil => rfl
  | cons tool tools ih =>
    rw [List.map_cons, List.map_cons, Shape.each, toolOfValue_fields]
    dsimp only
    rw [ih]
    rfl

theorem ofEntries_fields {receipt : Receipt} {dir : String}
    (hformat : receipt.format < twoTo 32) (hdir : Path.ofText dir = receipt.managerDir)
    {tools : Value} (htools : Shape.listOf toolOfValue tools = .ok receipt.tools) :
    ofEntries (receipt.fields dir ++ [("tools", tools)]) = .ok receipt := by
  obtain ⟨format, finishedAt, managerDir, managerVersion, kept⟩ := receipt
  dsimp only at hformat hdir htools
  subst hdir
  have hnatural : Shape.natural32 (.integer format) = .ok format := by
    rw [Shape.natural32, if_pos ⟨Int.natCast_nonneg _, by exact_mod_cast hformat⟩,
      Int.toNat_natCast]
  simp [ofEntries, fields, Shape.field?, List.lookup_cons, hnatural, htools, Shape.string,
    Shape.path, Shape.required]
  rfl

theorem build_statements (receipt : Receipt) (dir : String) : ∃ tools,
    build (receipt.statements dir) = some (receipt.fields dir ++ [("tools", tools)]) ∧
      Shape.listOf toolOfValue tools = .ok receipt.tools := by
  have hnodup : ∀ tools, ((receipt.fields dir ++ [("tools", tools)]).map Prod.fst).Nodup := by
    intro tools
    show ["version", "finished_at", "manager_dir", "manager_version", "tools"].Nodup
    decide
  unfold statements
  split
  · rename_i hempty
    refine ⟨_, build_keys (hnodup _), ?_⟩
    rw [List.isEmpty_iff.mp hempty]
    rfl
  · rename_i hempty
    refine ⟨_, build_tables ?_ ?_ ?_ ?_, each_tools receipt.tools⟩
    · show ["version", "finished_at", "manager_dir", "manager_version"].Nodup
      decide
    · simp [fields]
    · intro table htable
      obtain ⟨tool, _, rfl⟩ := List.mem_map.mp htable
      show ["name", "version", "status", "detail"].Nodup
      decide
    · simpa using hempty

theorem ofText_render {receipt : Receipt} (hformat : receipt.format < twoTo 32) {text : String}
    (h : receipt.render? = some text) : ofText text = .ok receipt := by
  obtain ⟨dir, hdir, hsays, hhead⟩ := render?_says hformat h
  obtain ⟨tools, hbuild, htools⟩ := receipt.build_statements dir
  have hplace : Path.ofText dir = receipt.managerDir := by
    rw [Path.ofText, Utf8.encode_of_decode? hdir]
  have hread : Toml.read text = some (receipt.fields dir ++ [("tools", tools)]) := by
    rw [Toml.read, readChars_of_says hsays (by rw [hhead]; decide), hbuild]
  rw [ofText, hread]
  dsimp only
  rw [ofEntries_fields hformat hplace htools]

/-! ## Keeping -/

/-- What keeping a receipt can come to, and the disk that it leaves: nothing but directories is
made; or the file is emptied, and its writing breaks off; or the whole text is written. -/
inductive Saved (receipt : Receipt) (path : Path) (disk : Disk) :
    Except SaveFault Unit → Disk → Prop where
  | unopened {fault : SaveFault} {made after : Disk} : Disk.Extends disk made →
      Disk.SameNodes made after → Saved receipt path disk (.error fault) after
  | broken {fault : SaveFault} {made after : Disk} {l : Location} {text : String} {kept : Bytes}
      {mode : Bool} : Disk.Extends disk made → receipt.render? = some text →
      made.writable path = .ok l → kept <+: Utf8.encode text → kept ≠ Utf8.encode text →
      Disk.SameNodes (made.put l (.file kept mode)) after →
      Saved receipt path disk (.error fault) after
  | whole {made after : Disk} {l : Location} {text : String} {mode : Bool} :
      receipt.render? = some text → made.writable path = .ok l →
      Disk.SameNodes (made.put l (.file (Utf8.encode text) mode)) after →
      Saved receipt path disk (.ok ()) after

/-- Keeps a receipt in a file whose directory is there. -/
def keep (receipt : Receipt) (made : Disk) (path : Path) : Except SaveFault Unit × Disk :=
  match receipt.render? with
  | none => (.error .unwritableText, made)
  | some text =>
    match made.write path (Utf8.encode text) with
    | (.error fault, after) => (.error (.noFile path fault), after)
    | (.ok (), written) => (.ok (), written)

theorem keep_spec (receipt : Receipt) {disk made : Disk} (h : Disk.Extends disk made)
    (path : Path) :
    Saved receipt path disk (receipt.keep made path).1 (receipt.keep made path).2 := by
  unfold keep
  cases htext : receipt.render? with
  | none => exact .unopened h (.refl made)
  | some text =>
    dsimp only
    rcases hwrite : made.write path (Utf8.encode text) with ⟨fault | done, after⟩
    · cases Disk.stored_of_eq hwrite with
      | unopened hsame _ => exact .unopened h hsame
      | broken hw _ _ hpart hproper hsame => exact .broken h htext hw hpart hproper hsame
    · cases Disk.stored_of_eq hwrite with
      | whole hw _ _ hsame => exact .whole htext hw hsame

/-- Directories are made before anything else is done. -/
theorem save_spec (receipt : Receipt) (disk : Disk) (path : Path) :
    Saved receipt path disk (receipt.save disk path).1 (receipt.save disk path).2 := by
  cases hparent : path.parent? with
  | none =>
    simp only [save, hparent]
    exact receipt.keep_spec (.refl disk) path
  | some parent =>
    have hextends := Disk.makeDirectories_extends disk parent
    simp only [save, hparent]
    rcases hmake : disk.makeDirectories parent with ⟨fault | done, made⟩
    · rw [hmake] at hextends
      exact .unopened hextends (.refl made)
    · rw [hmake] at hextends
      exact receipt.keep_spec hextends path

section Consequences

variable {receipt : Receipt} {path : Path} {disk after : Disk}

theorem Saved.readText (h : Saved receipt path disk (.ok ()) after) :
    ∃ text, receipt.render? = some text ∧ after.readText path = .ok text := by
  cases h with
  | @whole _ _ _ text _ htext hw hsame =>
    refine ⟨text, htext, ?_⟩
    rw [Disk.readText, hsame.read, Disk.read_written hw]
    dsimp only
    rw [Utf8.decode?_encode]

theorem load_of_read {earlier : Receipt} (h : load disk path = .ok earlier)
    (hread : ∀ data, disk.read path = .ok data → after.read path = .ok data) :
    load after path = .ok earlier := by
  unfold load at h ⊢
  split at h
  · cases h
  rename_i text htext
  obtain ⟨data, hdata, hdecoded⟩ := StartupFile.readText_ok htext
  rw [Disk.readText, hread data hdata]
  dsimp only
  rw [hdecoded]
  exact h

/-- Every file is as it was, and so is the receipt that can be read. -/
def AsBefore (disk after : Disk) (path : Path) : Prop :=
  (∀ l, after.content? l = disk.content? l) ∧
    (∀ data, disk.read path = .ok data → after.read path = .ok data) ∧
    ∀ earlier, load disk path = .ok earlier → load after path = .ok earlier

/-- The file was emptied, and holds no more than the front of a receipt's text. -/
def BrokenOff (receipt : Receipt) (disk after : Disk) (path : Path) : Prop :=
  ∃ text kept, receipt.render? = some text ∧ kept <+: Utf8.encode text ∧
    kept ≠ Utf8.encode text ∧ ∃ l mode, after.locate path = .ok (l, .file kept mode) ∧
      ∀ other, other ≠ l → after.content? other = disk.content? other

theorem asBefore_of_extends {made : Disk} (h : Disk.Extends disk made)
    (hsame : Disk.SameNodes made after) : AsBefore disk after path := by
  have hread : ∀ data, disk.read path = .ok data → after.read path = .ok data :=
    fun data hdata => (hsame.read path).trans (h.read hdata)
  refine ⟨fun l => ?_, hread, fun earlier hearlier => load_of_read hearlier hread⟩
  calc after.content? l
      = made.content? l := by rw [Disk.content?, hsame.2 l]; rfl
    _ = disk.content? l := (h.2 l).content

theorem brokenOff_of_put {made : Disk} {l : Location} {text : String} {kept : Bytes} {mode : Bool}
    (h : Disk.Extends disk made) (htext : receipt.render? = some text)
    (hw : made.writable path = .ok l) (hpart : kept <+: Utf8.encode text)
    (hproper : kept ≠ Utf8.encode text)
    (hsame : Disk.SameNodes (made.put l (.file kept mode)) after) :
    BrokenOff receipt disk after path := by
  have hloc := (hsame.locate path).trans (Disk.locate_written hw kept mode)
  refine ⟨text, kept, htext, hpart, hproper, l, mode, hloc, fun other hother => ?_⟩
  calc after.content? other
      = made.content? other := by
        rw [Disk.content?, hsame.2 other, Disk.node?_put_of_ne made _ hother]; rfl
    _ = disk.content? other := (h.2 other).content

theorem Saved.loads (h : Saved receipt path disk (.ok ()) after)
    (hformat : receipt.format < twoTo 32) :
    load after path = .ok receipt := by
  obtain ⟨text, htext, hread⟩ := h.readText
  rw [load, hread]
  exact ofText_render hformat htext

theorem Saved.kept_or_broken {fault : SaveFault}
    (h : Saved receipt path disk (.error fault) after) :
    AsBefore disk after path ∨ BrokenOff receipt disk after path := by
  cases h with
  | unopened hextends hsame => exact Or.inl (asBefore_of_extends hextends hsame)
  | broken hextends htext hw hpart hproper hsame =>
    exact Or.inr (brokenOff_of_put hextends htext hw hpart hproper hsame)

theorem managerDir_of_render? {text : String} (h : receipt.render? = some text) :
    receipt.managerDir.text? ≠ none := by
  intro hnone
  rw [render?, hnone] at h
  cases h

end Consequences

/-- A receipt that was kept is read back, and one whose directory is no text is not kept. Where a
receipt could not be kept every file is as it was, and the receipt that was there is still read; but
where the file was opened and its writing broke off, it holds the front of the text, and only the
other files are as they were. -/
theorem save_load (receipt : Receipt) (hformat : receipt.format < twoTo 32) (disk : Disk)
    (path : Path) :
    ((receipt.save disk path).1 = .ok () →
        load (receipt.save disk path).2 path = .ok receipt) ∧
      (receipt.managerDir.text? = none → (receipt.save disk path).1 ≠ .ok () ∧
        AsBefore disk (receipt.save disk path).2 path) ∧
      ((receipt.save disk path).1 ≠ .ok () → AsBefore disk (receipt.save disk path).2 path ∨
        BrokenOff receipt disk (receipt.save disk path).2 path) := by
  have hsaved := receipt.save_spec disk path
  generalize receipt.save disk path = ran at hsaved
  obtain ⟨fault | done, after⟩ := ran
  · refine ⟨fun hok => (by cases hok), fun hnone => ⟨by simp, ?_⟩,
      fun _ => hsaved.kept_or_broken⟩
    rcases hsaved.kept_or_broken with hbefore | ⟨text, _, htext, -⟩
    · exact hbefore
    · exact absurd hnone (managerDir_of_render? htext)
  · obtain ⟨text, htext, -⟩ := hsaved.readText
    exact ⟨fun _ => hsaved.loads hformat, fun hnone => absurd hnone (managerDir_of_render? htext),
      fun hfailed => absurd rfl hfailed⟩

/-- A receipt with texts that no form of a string but the last one can hold as they are. -/
theorem save_load_odd_texts :
    let receipt : Receipt :=
      { format := 1
        finishedAt := "2024-01-01T00:00:00Z"
        managerDir := .ofText "/home/\"me\"/.asdf"
        managerVersion := "v0.14.0"
        tools := [⟨"nodejs", "20.11.0", .installed, "v20.11.0"⟩,
          ⟨"ruby", "3.3.0", .failed, "it's \"odd\":\n\\ \x00\r\n'''\"\"\"\"\x7f"⟩] }
    let ran := receipt.save (.ofEntries []) (.ofText "state/receipt.toml")
    ran.1 = .ok () ∧ load ran.2 (.ofText "state/receipt.toml") = .ok receipt := by
  intro receipt ran
  have hok : ran.1 = .ok () := by decide +kernel
  exact ⟨hok,
    (receipt.save_load (by decide) (.ofEntries []) (.ofText "state/receipt.toml")).1 hok⟩

/-- A receipt is lost where the next one does not fit onto the device: its file has been emptied by
then. -/
theorem save_breaks_off :
    let path := Path.ofText "receipt.toml"
    let old : Receipt := ⟨1, "then", .ofText "/asdf", "v1", []⟩
    let kept := (old.save (.ofEntries []) path).2
    let disk : Disk := { kept with mishaps := [none, some ⟨.noSpace, 0⟩] }
    let ran := Receipt.save { old with finishedAt := "now" } disk path
    (load disk path).toOption = some old ∧ ran.1 = .error (.noFile path .noSpace) ∧
      ran.2.read path = .ok [] ∧ (load ran.2 path).toOption = none := by
  decide +kernel

end Receipt

end ToolBootstrap
