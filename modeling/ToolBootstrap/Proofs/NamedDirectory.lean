import ToolBootstrap.Command.Inspection
import ToolBootstrap.Proofs.CiAppend
import ToolBootstrap.Proofs.Conversation
import ToolBootstrap.Proofs.ExportLine

/- Which directory is persisted and printed.

   The CI file is given the octets of the manager's directories, or it is left alone
   (`CiFile.names_pathDirs`). The startup file and the printed line are given what is shown of the
   directory, which is the directory itself exactly if it is a text (`StartupFile.names_script`,
   `Shell.names_pathDirs`). So a directory that is no text is refused in one place, and in the other
   two another path is written for it (`Manager.names_directory`). -/

namespace ToolBootstrap

/-! ## Parts of joined octets -/

theorem infix_intercalate (sep : Bytes) {part : Bytes} {parts : List Bytes} (h : part ∈ parts) :
    part <:+: sep.intercalate parts := by
  induction parts with
  | nil => cases h
  | cons first rest ih =>
    cases rest with
    | nil =>
      obtain rfl := List.mem_singleton.mp h
      rw [List.intercalate_singleton]
    | cons next others =>
      rw [List.intercalate_cons_cons, List.append_assoc]
      rcases List.mem_cons.mp h with rfl | h
      · exact (List.prefix_append _ _).isInfix
      · exact (ih h).trans ((List.suffix_append _ _).trans (List.suffix_append _ _)).isInfix

/-! ## The directories of the manager -/

namespace Manager

variable (m : Manager) (shell : Shell)

/-- The octets of the script that a startup file runs to set the manager up. -/
def script : Bytes := m.dir.octets ++ slash :: Utf8.encode (startupMarker shell)

variable {m shell}

theorem isText_of_script (habs : m.dir.isAbsolute = true) {text : String}
    (h : m.script shell <:+: Utf8.encode text) : m.dir.IsText := by
  have hfirst : (m.script shell).head? = some slash := by
    rw [script, List.head?_append, beq_iff_eq.mp habs]
    rfl
  have hlast : (m.script shell).getLast? = some 0x68 := by
    rw [script, List.getLast?_append_of_ne_nil _ (List.cons_ne_nil _ _)]
    cases shell <;> decide +kernel
  have htext : Utf8.IsText (m.script shell) :=
    Utf8.isText_of_infix (by decide) (by decide) hfirst hlast h
  exact ((Utf8.isText_append_iff (by decide) _ _).mp htext).1

theorem pathDirs_cases {dir : Path} (h : dir ∈ m.pathDirs) :
    ∃ name : Path, name.isAbsolute = false ∧ name.IsText ∧
      (∃ z : UInt8, z.toNat < 0x80 ∧ name.octets.getLast? = some z) ∧ dir = m.dir.join name := by
  have hnames : dir = m.binDir ∨ dir = m.shimsDir := by simpa [pathDirs] using h
  rcases hnames with rfl | rfl
  · exact ⟨.ofText "bin", by decide +kernel, Utf8.isText_encode "bin",
      ⟨0x6E, by decide, by decide +kernel⟩, rfl⟩
  · exact ⟨.ofText "shims", by decide +kernel, Utf8.isText_encode "shims",
      ⟨0x73, by decide, by decide +kernel⟩, rfl⟩

theorem isText_pathDirs_iff {dir : Path} (h : dir ∈ m.pathDirs) : dir.IsText ↔ m.dir.IsText := by
  obtain ⟨name, hrel, hname, -, rfl⟩ := pathDirs_cases h
  rw [Path.isText_join_iff hrel]
  exact and_iff_left hname

theorem isText_of_pathDirs (habs : m.dir.isAbsolute = true) {dir : Path} (h : dir ∈ m.pathDirs)
    {text : String} (hin : dir.octets <:+: Utf8.encode text) : m.dir.IsText := by
  refine (isText_pathDirs_iff h).mp ?_
  obtain ⟨name, hrel, -, ⟨z, hz, hlast⟩, rfl⟩ := pathDirs_cases h
  exact Path.isText_of_infix_join hrel habs hz hlast hin

end Manager

/-! ## The startup file -/

namespace StartupFile

theorem Ensured.block_suffix {path : Path} {marker : String} {added : List String}
    {disk after : Disk} (h : Ensured path marker added disk (.ok .appended) after) :
    ∃ data, after.read path = .ok data ∧ block added <:+ data := by
  obtain ⟨l, hadds⟩ := h.appends
  refine ⟨_, hadds.read_after, ?_⟩
  rw [wanted, ← List.append_assoc]
  exact List.suffix_append _ _

/-- Whether lines are added does not depend on the lines, if there are any. -/
theorem ensureLines_result (path : Path) (marker : String) {added added' : List String}
    (h : added ≠ []) (h' : added' ≠ []) (disk : Disk) :
    (ensureLines path marker added disk).1 = (ensureLines path marker added' disk).1 := by
  have hdata : ∀ {lines : List String}, lines ≠ [] → ∀ old, separator old ++ block lines ≠ [] := by
    intro lines hlines old
    obtain ⟨first, rest, rfl⟩ := List.exists_cons_of_ne_nil hlines
    simp [block]
  rcases containsMarker_cases disk path marker with ⟨_, _, _, hc⟩ | ⟨_, _, _, hc⟩ | ⟨-, hc⟩
  · simp only [ensureLines, hc]
  · simp only [ensureLines, hc]
  · rw [ensureLines_of_unmarked hc, ensureLines_of_unmarked hc]
    rcases prepared disk path with ⟨fault | done, made⟩
    · rfl
    · have hsame : (made.append path (separator (contentOrNothing made path) ++ block added)).1 =
          (made.append path (separator (contentOrNothing made path) ++ block added')).1 :=
        Disk.store_result (hdata h _) (hdata h' _)
      dsimp only
      generalize made.append path (separator _ ++ block added) = ran at hsame ⊢
      generalize made.append path (separator _ ++ block added') = ran' at hsame ⊢
      obtain ⟨result, after⟩ := ran
      obtain ⟨result', after'⟩ := ran'
      obtain rfl : result = result' := hsame
      cases result <;> rfl

theorem startupLines_ne_nil (m : Manager) (shell : Shell) : m.startupLines shell ≠ [] := by
  cases shell <;> exact List.cons_ne_nil _ _

/-- Some startup line runs the script below what is shown of the directory. -/
theorem shown_in_startupLines (m : Manager) (shell : Shell) : ∃ line ∈ m.startupLines shell,
    Utf8.encode m.dir.display ++ slash :: Utf8.encode (Manager.startupMarker shell) <:+:
      Utf8.encode line := by
  have hinfix : ∀ {front shown tail : Bytes} (back : Bytes),
      shown ++ tail <:+: front ++ shown ++ (tail ++ back) :=
    fun {front _ _} back => ⟨front, back, by simp⟩
  cases shell with
  | zsh | bash =>
    refine ⟨_, List.mem_cons_self, ?_⟩
    have htail : Utf8.encode "/asdf.sh\"" =
        slash :: Utf8.encode (Manager.startupMarker .bash) ++ [0x22] := by decide +kernel
    rw [Utf8.encode_append, Utf8.encode_append, htail]
    exact hinfix [0x22]
  | fish =>
    refine ⟨_, List.mem_cons_self, ?_⟩
    have htail : Utf8.encode "/asdf.fish\"" =
        slash :: Utf8.encode (Manager.startupMarker .fish) ++ [0x22] := by decide +kernel
    rw [Utf8.encode_append, Utf8.encode_append, htail]
    exact hinfix [0x22]

theorem names_script {m : Manager} {shell : Shell} {path : Path} {disk after : Disk}
    (h : ensureLines path (Manager.startupMarker shell) (m.startupLines shell) disk =
      (.ok .appended, after)) :
    ∃ data, after.read path = .ok data ∧ (m.dir.IsText → m.script shell <:+: data) ∧
      (m.dir.isAbsolute = true → Seen disk path → m.script shell <:+: data → m.dir.IsText) := by
  have hensured := ensureLines_spec path (Manager.startupMarker shell) (m.startupLines shell) disk
  rw [h] at hensured
  obtain ⟨data, hread, hblock⟩ := hensured.block_suffix
  refine ⟨data, hread, fun htext => ?_, fun habs hseen hin => ?_⟩
  · obtain ⟨line, hline, hshown⟩ := shown_in_startupLines m shell
    rw [(Path.encode_display_iff m.dir).mpr htext] at hshown
    exact hshown.trans ((infix_block hline).trans hblock.isInfix)
  · obtain ⟨text, hdecoded⟩ := Option.isSome_iff_exists.mp (hensured.isText hseen hread)
    rw [← Utf8.encode_of_decode? hdecoded] at hin
    exact Manager.isText_of_script habs hin

end StartupFile

/-! ## The CI file -/

namespace CiFile

variable {m : Manager} {file : Option Path} {path : SearchPath} {disk after : Disk}

/-- A search path with the directories of a manager has a line only if they are texts. -/
theorem isText_of_lineValue {value : String}
    (h : (path.extended m.pathDirs).lineValue = .ok value) : m.dir.IsText := by
  obtain ⟨-, htext⟩ := (SearchPath.lineValue_ok_iff _).mp ⟨value, h⟩
  have hentries := (Utf8.isText_intercalate_iff (by decide) _).mp htext
  have hbin : m.binDir ∈ m.pathDirs := List.mem_cons_self
  obtain ⟨entry, hentry, hsame⟩ := List.any_eq_true.mp (path.contains_extended hbin)
  have hnamed : entry.IsText := hentries _ (List.mem_map_of_mem hentry)
  exact (Manager.isText_pathDirs_iff hbin).mp (Path.isText_of_same hsame hnamed)

theorem isText_of_persist (h : persist file (path.extended m.pathDirs) disk = (.ok (), after)) :
    m.dir.IsText := by
  obtain ⟨-, -, ⟨value, hvalue⟩, -⟩ := persist_ok_iff.mp h
  exact isText_of_lineValue hvalue

theorem names_pathDirs (h : persist file (path.extended m.pathDirs) disk = (.ok (), after)) :
    ∃ target data, file = some target ∧ after.read target = .ok data ∧
      assignment (path.extended m.pathDirs) <:+ data ∧
      ∀ dir ∈ m.pathDirs, ∃ entry ∈ (path.extended m.pathDirs).entries, entry.same dir = true ∧
        entry.octets <:+: assignment (path.extended m.pathDirs) := by
  obtain ⟨target, hfile, -, happend⟩ := persist_ok_iff.mp h
  refine ⟨target, _, hfile, Disk.read_appended happend, List.suffix_append _ _, ?_⟩
  intro dir hdir
  obtain ⟨entry, hentry, hsame⟩ := List.any_eq_true.mp (path.contains_extended hdir)
  have hjoined : entry.octets <:+: (path.extended m.pathDirs).joined :=
    infix_intercalate [colon] (List.mem_map_of_mem hentry)
  refine ⟨entry, hentry, hsame, hjoined.trans ?_⟩
  exact ⟨Utf8.encode "PATH=", [0x0A], rfl⟩

theorem refused_of_not_isText (file : Option Path) (path : SearchPath) (disk : Disk)
    (h : ¬ m.dir.IsText) : ∃ reason, persist file (path.extended m.pathDirs) disk =
      (.error (.writeUnavailable file reason), disk) := by
  rcases hran : persist file (path.extended m.pathDirs) disk with ⟨result, after⟩
  cases persisted_of_eq hran with
  | refused _ => exact ⟨_, rfl⟩
  | failed _ hvalue _ => exact absurd (isText_of_lineValue hvalue) h
  | added _ hvalue _ => exact absurd (isText_of_lineValue hvalue) h

end CiFile

/-! ## The printed line -/

namespace Shell

theorem shown_in_exportLine (shell : Shell) {dirs : List Path} {dir : Path} (h : dir ∈ dirs) :
    Utf8.encode dir.display <:+: Utf8.encode (shell.exportLine dirs) := by
  rw [encode_exportLine]
  have hjoined := infix_intercalate [shell.separator]
    (List.mem_map_of_mem (f := fun dir => Utf8.encode dir.display) h)
  exact hjoined.trans ⟨_, _, rfl⟩

theorem names_pathDirs (shell : Shell) {m : Manager} (h : m.dir.IsText) {dir : Path}
    (hdir : dir ∈ m.pathDirs) : dir.octets <:+: Utf8.encode (shell.exportLine m.pathDirs) := by
  have hshown := shown_in_exportLine shell hdir
  rwa [(Path.encode_display_iff dir).mpr ((Manager.isText_pathDirs_iff hdir).mpr h)] at hshown

end Shell

namespace Command

variable {σ : Type}

theorem exportedLine_ok_iff {env : Environment} {config : Config} {name : Option String}
    {line : String} : exportedLine env config name = .ok line ↔
      ∃ shell base m, chosenShell env name = .ok shell ∧ home env = .ok base ∧
        configuredManager env config base = .ok m ∧ line = shell.exportLine m.pathDirs := by
  unfold exportedLine
  cases hshell : chosenShell env name with
  | error fault => simp [bind, Except.bind]
  | ok shell =>
    cases hhome : home env with
    | error fault => simp [bind, Except.bind]
    | ok base =>
      cases hmanager : configuredManager env config base with
      | error fault => simp [bind, Except.bind, hmanager]
      | ok m => simp [bind, Except.bind, pure, Except.pure, hmanager, eq_comm]

/-- What is printed is the line for the manager that the configuration names. -/
theorem printExport_ok_iff {env : Environment} {config : Config} {name : Option String}
    {s t : Session σ} : (printExport env config name).run s = (.ok (), t) ↔
      ∃ shell base m, chosenShell env name = .ok shell ∧ home env = .ok base ∧
        configuredManager env config base = .ok m ∧
        t = { s with console := s.console ++ [.line (shell.exportLine m.pathDirs)] } := by
  have hrun : (printExport env config name).run s = (.ok (), t) ↔
      ∃ line, exportedLine env config name = .ok line ∧
        t = { s with console := s.console ++ [.line line] } := by
    unfold printExport
    cases exportedLine env config name with
    | error fault =>
      show (Except.error fault, s) = (Except.ok (), t) ↔ _
      simp
    | ok line =>
      show (Except.ok (), { s with console := s.console ++ [.line line] }) = (Except.ok (), t) ↔ _
      simp [eq_comm]
  rw [hrun]
  constructor
  · intro ⟨line, hline, ht⟩
    obtain ⟨shell, base, m, hshell, hhome, hm, rfl⟩ := exportedLine_ok_iff.mp hline
    exact ⟨shell, base, m, hshell, hhome, hm, ht⟩
  · intro ⟨shell, base, m, hshell, hhome, hm, ht⟩
    exact ⟨_, exportedLine_ok_iff.mpr ⟨shell, base, m, hshell, hhome, hm, rfl⟩, ht⟩

end Command

/-! ## What is written of a directory -/

namespace Manager

/-- The startup file and the printed line name the directory of the manager if it is a text, and an
absolute one only if it is. No directory is refused by the startup file if another one is not, and
any directory is printed. The CI file is given no directory but a text, by entries that are the same
place. -/
theorem names_directory (m : Manager) (shell : Shell) :
    (∀ path disk after, StartupFile.ensureLines path (startupMarker shell) (m.startupLines shell)
        disk = (.ok .appended, after) →
      ∃ data, after.read path = .ok data ∧ (m.dir.IsText → m.script shell <:+: data) ∧
        (m.dir.isAbsolute = true → StartupFile.Seen disk path → m.script shell <:+: data →
          m.dir.IsText)) ∧
    (∀ path disk (other : Manager),
      (StartupFile.ensureLines path (startupMarker shell) (m.startupLines shell) disk).1 =
        (StartupFile.ensureLines path (startupMarker shell) (other.startupLines shell) disk).1) ∧
    (∀ file (path : SearchPath) disk after,
      CiFile.persist file (path.extended m.pathDirs) disk = (.ok (), after) →
      m.dir.IsText ∧ ∃ target data, file = some target ∧ after.read target = .ok data ∧
        CiFile.assignment (path.extended m.pathDirs) <:+ data ∧
        ∀ dir ∈ m.pathDirs, ∃ entry ∈ (path.extended m.pathDirs).entries,
          entry.same dir = true ∧
            entry.octets <:+: CiFile.assignment (path.extended m.pathDirs)) ∧
    (¬ m.dir.IsText → ∀ file (path : SearchPath) disk, ∃ reason,
      CiFile.persist file (path.extended m.pathDirs) disk =
        (.error (.writeUnavailable file reason), disk)) ∧
    (∀ (σ : Type) env config name base (s : Session σ), Command.chosenShell env name = .ok shell →
      Command.home env = .ok base → Command.configuredManager env config base = .ok m →
      (Command.printExport env config name).run s =
        (.ok (), { s with console := s.console ++ [.line (shell.exportLine m.pathDirs)] })) ∧
    ∀ dir ∈ m.pathDirs,
      (m.dir.IsText → dir.octets <:+: Utf8.encode (shell.exportLine m.pathDirs)) ∧
      (m.dir.isAbsolute = true → dir.octets <:+: Utf8.encode (shell.exportLine m.pathDirs) →
        m.dir.IsText) := by
  refine ⟨fun path disk after h => StartupFile.names_script h,
    fun path disk other => StartupFile.ensureLines_result path _
      (StartupFile.startupLines_ne_nil m shell) (StartupFile.startupLines_ne_nil other shell) disk,
    fun file path disk after h => ⟨CiFile.isText_of_persist h, CiFile.names_pathDirs h⟩,
    fun hnone file path disk => CiFile.refused_of_not_isText file path disk hnone, ?_, ?_⟩
  · intro σ env config name base s hshell hhome hm
    exact Command.printExport_ok_iff.mpr ⟨shell, base, m, hshell, hhome, hm, rfl⟩
  · intro dir hdir
    exact ⟨fun htext => Shell.names_pathDirs shell htext hdir,
      fun habs hin => isText_of_pathDirs habs hdir hin⟩

/-- A directory with a name that is no plain ASCII, in an empty startup file. -/
theorem names_directory_accented :
    let m : Manager := ⟨"", "", .ofText "/jos\u00E9/asdf"⟩
    let added := StartupFile.ensureLines (.ofText "rc") (startupMarker .fish) (m.startupLines .fish)
      (.ofEntries [])
    added.1 = .ok .appended ∧ m.dir.IsText ∧
      ∃ data, added.2.read (.ofText "rc") = .ok data ∧ m.script .fish <:+: data := by
  intro m added
  have happended : added.1 = .ok .appended := by decide +kernel
  have htext : m.dir.IsText := Utf8.isText_encode _
  obtain ⟨hscript, -⟩ := names_directory m .fish
  obtain ⟨data, hread, hin, -⟩ := hscript _ _ added.2 (Prod.ext happended rfl)
  exact ⟨happended, htext, data, hread, hin htext⟩

/-- A home directory that is no text: the lines are added and printed, and name another path. -/
theorem names_another_directory :
    let m : Manager := ⟨"", "", ⟨[slash, 0xE9] ++ Utf8.encode "/asdf"⟩⟩
    let env : Environment := ⟨[("HOME", [slash, 0xE9])], none⟩
    let config : Config := ⟨⟨"", "", "asdf"⟩, []⟩
    let added := StartupFile.ensureLines (.ofText "rc") (startupMarker .bash) (m.startupLines .bash)
      (.ofEntries [])
    let written := ". \"/\uFFFD/asdf/asdf.sh\"\n. \"/\uFFFD/asdf/completions/asdf.bash\"\n"
    let printed := "export PATH=\"$PATH:/\uFFFD/asdf/bin:/\uFFFD/asdf/shims\""
    ((Command.home env).bind (Command.configuredManager env config)).toOption = some m ∧
      added.1 = .ok .appended ∧ added.2.read (.ofText "rc") = .ok (Utf8.encode written) ∧
      ¬ m.script .bash <:+: Utf8.encode written ∧
      (Command.exportedLine env config (some "bash")).toOption = some printed ∧
      ∀ dir ∈ m.pathDirs, ¬ dir.octets <:+: Utf8.encode printed := by
  decide +kernel

end Manager

end ToolBootstrap
