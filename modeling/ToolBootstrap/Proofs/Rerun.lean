import ToolBootstrap.Proofs.LineFile
import ToolBootstrap.Proofs.Opening
import ToolBootstrap.Proofs.Replay

/- A run after a run.

   `Undisturbed` says that nothing but two interactive runs of one set-up touches the directory of
   the manager and the startup file. The second run then finds the manager, finds its lines in the
   startup file, leaves that file alone, and installs the tools as the first one did where its
   runner answers alike, up to plugins that are there (`rerun_law`). The limits of this are real,
   and `rerun_disturbed` shows them: a file that came into reach only when missing directories were
   made may be no text, a file that could not be made or written to may be the next time, and a
   clone that is discarded takes along what stood in its place. -/

namespace ToolBootstrap

namespace Disk

/-- A path leads to the same entry on two disks, or to none on both. -/
def SameAt (disk after : Disk) (path : Path) : Prop :=
  ∀ found, after.locate path = .ok found ↔ disk.locate path = .ok found

theorem SameAt.of_eq {disk after : Disk} {path : Path}
    (h : after.locate path = disk.locate path) : SameAt disk after path := by
  intro found
  rw [h]

end Disk

namespace Bootstrap

open Session

variable {σ τ : Type}

/-- Nothing but the runs themselves touches the directory of the manager and the startup file: not
the commands of either run, and nothing between the runs. Where the manager has to be cloned again,
the startup file is outside its directory. -/
structure Undisturbed (b : Bootstrap) (git git' : Git) (first : Runner σ) (second : Runner τ)
    (elapsed elapsed' : Elapsed) (tools : List Tool) (s : Session σ) (t : Session τ) : Prop where
  firstCommands : (b.ready git false s.disk).SameAt
    ((b.run git first elapsed tools false).run s).2.disk b.startupFile
  startupFile :
    ((b.run git first elapsed tools false).run s).2.disk.SameAt t.disk b.startupFile
  managerDir : t.disk.pathExists b.manager.dir =
    ((b.run git first elapsed tools false).run s).2.disk.pathExists b.manager.dir
  cloning : t.disk.pathExists b.manager.dir = true ∨ b.manager.Spares git' t.disk b.startupFile
  secondCommands : (b.ready git' false t.disk).SameAt
    ((b.run git' second elapsed' tools false).run t).2.disk b.startupFile

section Again

variable {b : Bootstrap} {git git' : Git} {disk later : Disk} {l : Location} {data : Bytes}
  {mode : Bool}

/-- A startup file in which a first run has put or found its lines is left alone by a second one,
and so is one that is no text. The lines are found in it if it is a text. -/
theorem ready_again (hgit : git'.Lawful)
    (hloc : (b.ready git false disk).locate b.startupFile = .ok (l, .file data mode))
    (hlater : later.locate b.startupFile = .ok (l, .file data mode))
    (hclone : later.pathExists b.manager.dir = true ∨ b.manager.Spares git' later b.startupFile)
    (hfirst : (∃ update, (b.persisted false (b.managed git disk)).1 = .ok (some update)) ∨
      Utf8.decode? data = none) :
    b.ready git' false later = b.managed git' later ∧
      (b.persisted false (b.managed git' later)).1 =
        .ok (if (Utf8.decode? data).isSome then some .alreadyPresent else none) := by
  obtain ⟨result, hresult, hensured⟩ := b.persisted_shell (b.managed git disk)
  have hmanaged : (b.managed git' later).locate b.startupFile = .ok (l, .file data mode) :=
    Manager.ensureInstalled_locate hgit hclone hlater
  have hmarked : ¬ StartupFile.Unmarked (b.managed git' later) b.startupFile
      (Manager.startupMarker b.shell) := by
    rcases hfirst with ⟨update, hupdate⟩ | hnone
    · rw [hresult] at hupdate
      cases result with
      | error failure => cases hupdate
      | ok update' =>
        exact hensured.not_unmarked (Manager.startupMarker_isMarker b.shell)
          (b.manager.marker_in_startupLines b.shell) hloc hmanaged
    · exact StartupFile.not_unmarked_of_not_text hnone hmanaged
  have hsame := StartupFile.ensureLines_of_marked hmarked (Disk.read_of_locate hmanaged)
    (b.manager.startupLines b.shell)
  simp only [ready, persisted, Bool.false_eq_true, if_false, hsame]
  refine ⟨trivial, ?_⟩
  split <;> rfl

/-- A second run leaves what it finds in the startup file in front of what it adds, and adds nothing
to what a first run has told of, or to what is no text. -/
theorem ready_grows (hgit : git'.Lawful)
    (hloc : (b.ready git false disk).locate b.startupFile = .ok (l, .file data mode))
    (hlater : later.locate b.startupFile = .ok (l, .file data mode))
    (hclone : later.pathExists b.manager.dir = true ∨ b.manager.Spares git' later b.startupFile) :
    ∃ more, (b.ready git' false later).read b.startupFile = .ok (data ++ more) ∧
      ((∃ update, (b.persisted false (b.managed git disk)).1 = .ok (some update)) ∨
        Utf8.decode? data = none → more = []) := by
  have hmanaged : (b.managed git' later).locate b.startupFile = .ok (l, .file data mode) :=
    Manager.ensureInstalled_locate hgit hclone hlater
  obtain ⟨_, _, hensured⟩ := b.persisted_shell (b.managed git' later)
  obtain ⟨more, hmore⟩ := hensured.read_grows (Disk.read_of_locate hmanaged)
  refine ⟨more, hmore, fun hfirst => ?_⟩
  have hsame := (ready_again hgit hloc hlater hclone hfirst).1
  have hkept : (.ok data : Except IoFault Bytes) = .ok (data ++ more) := by
    calc (.ok data : Except IoFault Bytes)
        = (b.managed git' later).read b.startupFile := (Disk.read_of_locate hmanaged).symm
      _ = (b.ready git' false later).read b.startupFile := by rw [hsame]
      _ = .ok (data ++ more) := hmore
  exact List.self_eq_append_right.mp (Except.ok.inj hkept)

end Again

section Untouched

variable {b : Bootstrap} {git git' : Git} {first : Runner σ} {second : Runner τ}
  {elapsed elapsed' : Elapsed} {tools : List Tool} {s : Session σ} {t : Session τ} {data : Bytes}

/-- What can be read after the first run is what its commands found, and what the second run finds. -/
theorem Undisturbed.handed_on (h : Undisturbed b git git' first second elapsed elapsed' tools s t)
    (hread : ((b.run git first elapsed tools false).run s).2.disk.read b.startupFile = .ok data) :
    ∃ l mode, (b.ready git false s.disk).locate b.startupFile = .ok (l, .file data mode) ∧
      t.disk.locate b.startupFile = .ok (l, .file data mode) := by
  obtain ⟨l, mode, hran⟩ := Disk.read_ok_iff.mp hread
  exact ⟨l, mode, (h.firstCommands _).mp hran, (h.startupFile _).mpr hran⟩

theorem Undisturbed.ran_reads (h : Undisturbed b git git' first second elapsed elapsed' tools s t)
    (hread : (b.ready git false s.disk).read b.startupFile = .ok data) :
    ((b.run git first elapsed tools false).run s).2.disk.read b.startupFile = .ok data := by
  obtain ⟨l, mode, hloc⟩ := Disk.read_ok_iff.mp hread
  exact Disk.read_of_locate ((h.firstCommands _).mpr hloc)

theorem Undisturbed.again_reads (h : Undisturbed b git git' first second elapsed elapsed' tools s t)
    (hread : (b.ready git' false t.disk).read b.startupFile = .ok data) :
    ((b.run git' second elapsed' tools false).run t).2.disk.read b.startupFile = .ok data := by
  obtain ⟨l, mode, hloc⟩ := Disk.read_ok_iff.mp hread
  exact Disk.read_of_locate ((h.secondCommands _).mpr hloc)

end Untouched

/-- The law of a second run: it finds the manager where the first one has left it, and clones
nothing; it finds its lines in the startup file wherever that file is a text, and it is one unless
it came into reach by directories that the first run made; it keeps the bytes of the startup file in
front, and adds none where the first run told what became of the file, or where the file is no text;
and under a runner that answers alike, up to plugins that are there, it hands over the same commands
and reports the same outcomes. -/
theorem rerun_law {b : Bootstrap} {git git' : Git} (hgit : git'.Lawful) {first : Runner σ}
    {second : Runner τ} {elapsed elapsed' : Elapsed} {tools : List Tool} {s : Session σ}
    {t : Session τ} (h : Undisturbed b git git' first second elapsed elapsed' tools s t) :
    let ran := (b.run git first elapsed tools false).run s
    let again := (b.run git' second elapsed' tools false).run t
    ∃ report report', ran.1 = .ok report ∧ again.1 = .ok report' ∧
      (ran.2.disk.pathExists b.manager.dir = true →
        report'.managerState = some .alreadyPresent ∧ b.managed git' t.disk = t.disk) ∧
      (∀ update, report.startup = some update → ∃ data,
        ran.2.disk.read b.startupFile = .ok data ∧
          report'.startup =
            (if (Utf8.decode? data).isSome then some .alreadyPresent else none) ∧
          (StartupFile.Seen (b.managed git s.disk) b.startupFile →
            (Utf8.decode? data).isSome = true)) ∧
      (∀ data, ran.2.disk.read b.startupFile = .ok data →
        ∃ more, again.2.disk.read b.startupFile = .ok (data ++ more) ∧
          (report.startup ≠ none ∨ Utf8.decode? data = none → more = [])) ∧
      ∃ issued, ran.2.calls = s.calls ++ issued ∧
        (first.Repeats second issued (b.ready git false s.disk, s.memory)
            (b.ready git' false t.disk, t.memory) →
          again.2.calls = t.calls ++ issued ∧ report'.tools = report.tools) := by
  obtain ⟨result, hresult, hensured⟩ := b.persisted_shell (b.managed git s.disk)
  obtain ⟨result', hresult', _⟩ := b.persisted_shell (b.managed git' t.disk)
  obtain ⟨console, hran⟩ := run_of_ok hresult first elapsed tools
  obtain ⟨console', hagain⟩ := run_of_ok hresult' second elapsed' tools
  obtain ⟨issued, hcalls, _, hrep⟩ := installTools_alongside first second
    b.extendedPath tools { s with disk := b.ready git false s.disk, console := console }
    { t with disk := b.ready git' false t.disk, console := console' }
  have htold : ∀ {update}, result.toOption = some update →
      (b.persisted false (b.managed git s.disk)).1 = .ok (some update) :=
    fun hupdate => hresult.trans (congrArg Except.ok hupdate)
  intro ran again
  refine ⟨_, _, congrArg Prod.fst hran, congrArg Prod.fst hagain, fun hthere => ?_,
    fun update hupdate => ?_, fun data hread => ?_, issued, ?_, fun hrepeats => ?_⟩
  · rw [← h.managerDir] at hthere
    have hpresent := Manager.ensureInstalled_of_installed (m := b.manager) git' hthere
    dsimp only
    rw [managed, hpresent]
    exact ⟨rfl, rfl⟩
  · obtain ⟨data, hread, _⟩ := persisted_marker (htold hupdate)
    have hreads := h.ran_reads hread
    refine ⟨data, hreads, ?_, fun hseen => ?_⟩
    · obtain ⟨l, mode, hloc, hlater⟩ := h.handed_on hreads
      have hlines := (ready_again hgit hloc hlater h.cloning (Or.inl ⟨update, htold hupdate⟩)).2
      rw [hresult'] at hlines
      exact Except.ok.inj hlines
    · cases result with
      | error failure => cases hupdate
      | ok update' => exact hensured.isText hseen hread
  · obtain ⟨l, mode, hloc, hlater⟩ := h.handed_on hread
    obtain ⟨more, hmore, hnothing⟩ := ready_grows hgit hloc hlater h.cloning
    refine ⟨more, h.again_reads hmore, fun hsettled => hnothing (hsettled.imp_left fun hsome => ?_)⟩
    obtain ⟨update, hupdate⟩ := Option.ne_none_iff_exists'.mp hsome
    exact ⟨update, htold hupdate⟩
  · show ((b.run git first elapsed tools false).run s).2.calls = _
    rw [hran]
    exact hcalls
  · obtain ⟨htools, hcalls', _⟩ := hrep hrepeats
    refine ⟨?_, htools⟩
    show ((b.run git' second elapsed' tools false).run t).2.calls = _
    rw [hagain]
    exact hcalls'

/-- Answers by which the first plugin is added, the second one is there, and the second tool has no
such release. -/
def pluginAdded : Runner Unit :=
  Runner.scripted
    [("asdf plugin add b", .error (.alreadyExists "plugin b")),
     ("asdf install b 2", .error (.badSetting "unknown release")),
     ("a --version", .ok ⟨" ", "a 1\n"⟩)]

theorem pluginAdded_repeats (a b : Disk × Unit) :
    pluginAdded.Repeats pluginsThere
      [⟨"asdf", ["plugin", "add", "a"], rootSetup.extendedPath⟩,
        ⟨"asdf", ["install", "a", "1"], rootSetup.extendedPath⟩,
        ⟨"asdf", ["global", "a", "1"], rootSetup.extendedPath⟩,
        ⟨"a", ["--version"], rootSetup.extendedPath⟩,
        ⟨"asdf", ["plugin", "add", "b"], rootSetup.extendedPath⟩,
        ⟨"asdf", ["install", "b", "2"], rootSetup.extendedPath⟩] a b := by
  refine ⟨?_, .of_eq ?_, .of_eq ?_, .of_eq ?_, .of_eq ?_, .of_eq ?_, trivial⟩
  all_goals unfold pluginAdded pluginsThere Runner.scripted
  all_goals dsimp only
  · exact .added ⟨rfl, "a", rfl⟩ ⟨[], [], rfl⟩
  -- Everything else is answered alike.
  all_goals decide +kernel

/-- Two runs, of which the first one writes the startup file and adds a plugin: the second run finds
both, and fails where the first one failed. -/
theorem rerun_law_two_tools :
    let tools : List Tool := [⟨"a", "1", none⟩, ⟨"b", "2", none⟩]
    let ran := (rootSetup.run LocalGit.library pluginAdded ⟨0, 0⟩ tools false).run
      (Session.start (.ofEntries []) ())
    let again := (rootSetup.run LocalGit.library pluginsThere ⟨3, 7⟩ tools false).run
      (Session.start ran.2.disk ())
    ∃ report report', ran.1 = .ok report ∧ again.1 = .ok report' ∧
      report.startup = some .appended ∧ report'.managerState = some .alreadyPresent ∧
      report'.startup = some .alreadyPresent ∧ again.2.calls = ran.2.calls ∧
      report'.tools = report.tools := by
  intro tools ran again
  have h : Undisturbed rootSetup LocalGit.library LocalGit.library pluginAdded pluginsThere ⟨0, 0⟩
      ⟨3, 7⟩ tools (Session.start (.ofEntries []) ()) (Session.start ran.2.disk ()) :=
    { firstCommands := .of_eq (by decide +kernel)
      startupFile := .of_eq (by decide +kernel)
      managerDir := by decide +kernel
      cloning := Or.inl (by decide +kernel)
      secondCommands := .of_eq (by decide +kernel) }
  have hstarted : ran.1.map Report.startup = .ok (some .appended) := by decide +kernel
  have hthere : ran.2.disk.pathExists rootSetup.manager.dir = true := by decide +kernel
  have hseen : (StartupFile.prepared (rootSetup.managed LocalGit.library (.ofEntries []))
      rootSetup.startupFile).2.pathExists rootSetup.startupFile = false := by decide +kernel
  have hlist : ran.2.calls =
      [⟨"asdf", ["plugin", "add", "a"], rootSetup.extendedPath⟩,
        ⟨"asdf", ["install", "a", "1"], rootSetup.extendedPath⟩,
        ⟨"asdf", ["global", "a", "1"], rootSetup.extendedPath⟩,
        ⟨"a", ["--version"], rootSetup.extendedPath⟩,
        ⟨"asdf", ["plugin", "add", "b"], rootSetup.extendedPath⟩,
        ⟨"asdf", ["install", "b", "2"], rootSetup.extendedPath⟩] := by decide +kernel
  dsimp only [ran, again] at h hstarted hthere hlist ⊢
  obtain ⟨report, report', hok, hok', hmanager, hstartup, _, issued, hcalls, hrepeats⟩ :=
    rerun_law LocalGit.library_lawful h
  have happended : report.startup = some .appended := by
    rw [hok] at hstarted
    exact Except.ok.inj hstarted
  obtain ⟨data, _, hfound, htext⟩ := hstartup _ happended
  rw [htext (Or.inr hseen), if_pos rfl] at hfound
  rw [start_calls, List.nil_append] at hcalls
  rw [hcalls] at hlist
  subst hlist
  obtain ⟨hsame, htools⟩ := hrepeats (pluginAdded_repeats _ _)
  rw [start_calls, List.nil_append, ← hcalls] at hsame
  exact ⟨report, report', hok, hok', happended, (hmanager hthere).1, hfound, hsame, htools⟩

/-- A host with its manager and its startup file at given paths, and a repository without releases
to clone the manager from. -/
def hostAt (dir startupFile : String) : Bootstrap :=
  { manager := ⟨"/source", "v1", .ofText dir⟩
    searchPath := .empty
    shell := .bash
    startupFile := .ofText startupFile
    ciFile := none }

def runOn (b : Bootstrap) (disk : Disk) : Except Failure Report × Session Unit :=
  (b.run LocalGit.library (Runner.scripted []) ⟨0, 0⟩ [] false).run (Session.start disk ())

/-- A second run need not find what the first one has written. The startup file may have come into
reach when the directories above it were made, and be no text. What stood in the way of a startup
file may be gone, so that the second run is the one that makes it; or a file that could not be
opened can be, and is added to only then. And a clone that is discarded takes a startup file along
that stands where it was made. -/
theorem rerun_disturbed :
    let entry (name : String) (node : Node) : Location × Node := ([Utf8.encode name], node)
    (let host := hostAt "/asdf" "/d/../rc"
      let ran := runOn host (.ofEntries [entry "asdf" .directory, entry "rc" (.file [0xFF] false)])
      ran.1.map Report.startup = .ok (some .appended) ∧
        (runOn host ran.2.disk).1.map Report.startup = .ok none) ∧
    (let host := hostAt "/asdf" "/cfg/rc"
      let ran := runOn host (.ofEntries [entry "asdf" .directory, entry "cfg" (.file [] false)])
      let between := ran.2.disk.remove (.ofText "/cfg")
      between.locate host.startupFile = .error .noEntry ∧
        ran.2.disk.locate host.startupFile = .error .notDirectory ∧
        (runOn host between).2.disk.pathExists host.startupFile = true) ∧
    (let host := hostAt "/asdf" "/rc"
      let ran := runOn host ⟨[entry "asdf" .directory, entry "rc" (.file [] false)], [],
        [some ⟨.notPermitted, 0⟩]⟩
      ran.1.map Report.startup = .ok none ∧ ran.2.disk.read host.startupFile = .ok [] ∧
        (runOn host ran.2.disk).1.map Report.startup = .ok (some .appended)) ∧
    (let host := hostAt "/w/x/.." "/w/rc"
      let ran := runOn host
        (.ofEntries [entry "source" (.repository (.empty "main")), entry "w" .directory])
      ran.1.map Report.startup = .ok (some .appended) ∧
        (runOn host ran.2.disk).1.map Report.startup = .ok (some .appended)) := by
  refine ⟨⟨?_, ?_⟩, ⟨?_, ?_, ?_⟩, ⟨?_, ?_, ?_⟩, ?_, ?_⟩
  all_goals decide +kernel

end Bootstrap

end ToolBootstrap
