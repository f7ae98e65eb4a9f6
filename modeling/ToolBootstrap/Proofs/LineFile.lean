import ToolBootstrap.Proofs.Persistence

/- Files of lines, and the two ways in which lines are added to them.

   The rows of a file are the octets between its line feeds. What is added to a file whose last row
   is ended has rows of its own (`rows_append`); what is added to an unfinished row is joined onto
   it (`rows_append_unfinished`). The startup file is always ended first, so that over any sequence
   of calls every block of lines is added once and on rows of its own, as far as its writing has
   come (`history_adds_once`). The CI file is not: its new line is a row of its own exactly where
   the last row was ended and no entry of the search path holds a line feed (`persist_rows`). -/

namespace ToolBootstrap

/-! ## Rows -/

def lineFeed : UInt8 := 0x0A

/-- The rows of a file: the octets between line feeds. A final line feed starts no further row. -/
def rows (octets : Bytes) : List Bytes :=
  let parts := octets.splitOn lineFeed
  if parts.getLast? = some [] then parts.dropLast else parts

/-- What is added to a file starts a new row. -/
def Ended (octets : Bytes) : Prop := octets = [] ∨ octets.getLast? = some lineFeed

instance (octets : Bytes) : Decidable (Ended octets) :=
  inferInstanceAs (Decidable (octets = [] ∨ octets.getLast? = some lineFeed))

theorem rows_append_feed (front more : Bytes) :
    rows (front ++ lineFeed :: more) = front.splitOn lineFeed ++ rows more := by
  have hne : more.splitOn lineFeed ≠ [] := List.splitOn_ne_nil lineFeed more
  simp only [rows, List.splitOn_append_cons_self, List.getLast?_append_of_ne_nil _ hne,
    List.dropLast_append_of_ne_nil hne]
  split <;> rfl

theorem rows_nil : rows [] = [] := rfl

theorem rows_of_not_mem {run : Bytes} (h : lineFeed ∉ run) :
    rows run = if run = [] then [] else [run] := by
  simp only [rows, List.splitOn_eq_singleton h, List.getLast?_singleton, Option.some.injEq]
  split <;> rfl

theorem ended_of_not_mem {run : Bytes} (h : lineFeed ∉ run) : Ended run ↔ run = [] := by
  constructor
  · intro h
    rcases h with hnil | hlast
    · exact hnil
    · exact absurd (List.mem_of_getLast? hlast) h
  · exact Or.inl

theorem ended_append_feed (front more : Bytes) :
    Ended (front ++ lineFeed :: more) ↔ Ended more := by
  rcases List.eq_nil_or_concat' more with rfl | ⟨init, last, rfl⟩
  · simp [Ended]
  · rw [← List.cons_append, ← List.append_assoc]
    simp only [Ended, List.getLast?_concat, List.append_eq_nil_iff, List.cons_ne_self, reduceCtorEq,
      and_false]

theorem rows_last (octets : Bytes) :
    ∃ front last, lineFeed ∉ last ∧ (Ended octets ↔ last = []) ∧
      ∀ more, rows (octets ++ more) = front ++ rows (last ++ more) := by
  by_cases h : lineFeed ∈ octets
  · -- The last line feed is the first one of the reversed octets.
    obtain ⟨back, front, hrev, hback⟩ := List.eq_append_cons_of_mem (List.mem_reverse.mpr h)
    have hoctets : octets = front.reverse ++ lineFeed :: back.reverse := by
      rw [← octets.reverse_reverse, hrev]
      simp
    have hlast : lineFeed ∉ back.reverse := by simpa using hback
    refine ⟨front.reverse.splitOn lineFeed, back.reverse, hlast, ?_, fun more => ?_⟩
    · rw [hoctets, ended_append_feed, ended_of_not_mem hlast]
    · rw [hoctets, List.append_assoc, List.cons_append, rows_append_feed]
  · exact ⟨[], octets, h, ended_of_not_mem h, fun more => rfl⟩

theorem rows_append {old : Bytes} (h : Ended old) (new : Bytes) :
    rows (old ++ new) = rows old ++ rows new := by
  obtain ⟨front, last, _, hended, hrows⟩ := rows_last old
  have hlast := hended.mp h
  have hold := hrows []
  rw [hlast, List.append_nil] at hold
  rw [hrows, hold, hlast, List.append_assoc]
  rfl

theorem rows_append_unfinished {old : Bytes} (h : ¬ Ended old) :
    ∃ front last, lineFeed ∉ last ∧ rows old = front ++ [last] ∧
      ∀ new, rows (old ++ new) = front ++ rows (last ++ new) := by
  obtain ⟨front, last, hfeed, hended, hrows⟩ := rows_last old
  have hlast : last ≠ [] := fun hnil => h (hended.mpr hnil)
  have hold := hrows []
  rw [List.append_nil, List.append_nil, rows_of_not_mem hfeed, if_neg hlast] at hold
  exact ⟨front, last, hfeed, hold, hrows⟩

/-- A line is added as one row exactly where the file is ended and the line holds no line feed. -/
theorem rows_append_line_iff (old line : Bytes) :
    rows (old ++ (line ++ [lineFeed])) = rows old ++ [line] ↔ Ended old ∧ lineFeed ∉ line := by
  by_cases hold : Ended old
  · rw [rows_append hold, List.append_cancel_left_eq, rows_append_feed, rows_nil, List.append_nil]
    constructor
    · intro hsplit
      have hnone : ∀ row ∈ line.splitOn lineFeed, lineFeed ∉ row := not_mem_of_mem_splitOn
      rw [hsplit] at hnone
      exact ⟨hold, hnone line List.mem_cons_self⟩
    · exact fun h => List.splitOn_eq_singleton h.2
  · obtain ⟨front, last, _, hrows, happend⟩ := rows_append_unfinished hold
    refine ⟨fun h => ?_, fun h => absurd h.1 hold⟩
    rw [happend, hrows, List.append_assoc, List.append_cancel_left_eq, ← List.append_assoc,
      rows_append_feed, rows_nil, List.append_nil] at h
    -- Two rows have a line feed between them, and none was added there.
    have hjoin := congrArg [lineFeed].intercalate h
    rw [List.intercalate_splitOn] at hjoin
    have hlength := congrArg List.length hjoin
    simp at hlength

/-! ## The CI file -/

theorem mem_intercalate {x sep : UInt8} (hx : x ≠ sep) (parts : List Bytes) :
    x ∈ [sep].intercalate parts ↔ ∃ part ∈ parts, x ∈ part := by
  induction parts with
  | nil => simp
  | cons part rest ih =>
    cases rest with
    | nil => simp
    | cons next others =>
      rw [List.intercalate_cons_cons, List.append_assoc, List.mem_append, List.mem_append, ih]
      simp [hx]

namespace SearchPath

theorem mem_joined (path : SearchPath) : lineFeed ∈ path.joined ↔
    ∃ entry ∈ path.entries, lineFeed ∈ entry.octets := by
  rw [joined, mem_intercalate (by decide)]
  simp

theorem splitOn_joined {path : SearchPath} {octets : Bytes} (h : path.written = .ok octets)
    (hne : path.entries ≠ []) : (path.joined.splitOn colon).map Path.mk = path.entries := by
  unfold written at h
  split at h
  · cases h
  · rename_i hcolon
    rw [joined, List.splitOn_intercalate colon ?_ (by simpa using hne), List.map_map]
    · exact List.map_id' _
    · intro run hrun
      obtain ⟨entry, hentry, rfl⟩ := List.mem_map.mp hrun
      intro hmem
      exact hcolon (List.any_eq_true.mpr ⟨entry, hentry, by simpa using hmem⟩)

end SearchPath

namespace CiFile

open StartupFile (contentOrNothing)

/-- What a row that sets the search path starts with. -/
def key : Bytes := Utf8.encode "PATH="

/-- The entries that a later step of a job reads from the CI file: those of the last row that sets
the search path. -/
def exported? (content : Bytes) : Option (List Path) :=
  ((rows content).reverse.find? key.isPrefixOf).map fun row =>
    ((row.drop key.length).splitOn colon).map Path.mk

theorem exported?_concat {content value : Bytes} {front : List Bytes}
    (h : rows content = front ++ [key ++ value]) :
    exported? content = some ((value.splitOn colon).map Path.mk) := by
  have hkey : key.isPrefixOf (key ++ value) = true :=
    List.isPrefixOf_iff_prefix.mpr (List.prefix_append key value)
  rw [exported?, h, List.reverse_append]
  simp only [List.reverse_singleton, List.singleton_append, List.find?_cons, hkey,
    Option.map_some, List.drop_left]

theorem written_of_lineValue {path : SearchPath} {value : String}
    (h : path.lineValue = .ok value) : ∃ octets, path.written = .ok octets := by
  unfold SearchPath.lineValue at h
  split at h
  · cases h
  · rename_i octets hoctets
    exact ⟨octets, hoctets⟩

/-- A persisted search path is one more row of the CI file, after the rows that were there, exactly
where the last of these was ended and no entry holds a line feed. A later step then reads the
entries of the search path, if there are any. -/
theorem persist_rows {file : Option Path} {path : SearchPath} {disk after : Disk}
    (h : persist file path disk = (.ok (), after)) :
    ∃ target new, file = some target ∧ after.read target = .ok new ∧
      (rows new = rows (contentOrNothing disk target) ++ [Utf8.encode "PATH=" ++ path.joined] ↔
        Ended (contentOrNothing disk target) ∧
          ∀ entry ∈ path.entries, lineFeed ∉ entry.octets) ∧
      (Ended (contentOrNothing disk target) → (∀ entry ∈ path.entries, lineFeed ∉ entry.octets) →
        path.entries ≠ [] → exported? new = some path.entries) := by
  obtain ⟨target, value, hfile, hvalue, happend⟩ : ∃ target value, file = some target ∧
      path.lineValue = .ok value ∧ disk.append target (assignment path) = (.ok (), after) := by
    cases persisted_of_eq h with
    | added hfile hvalue happend => exact ⟨_, _, hfile, hvalue, happend⟩
  obtain ⟨octets, hwritten⟩ := written_of_lineValue hvalue
  obtain ⟨l, mode, _, hloc⟩ := Disk.append_spec happend
  have hfeed : lineFeed ∉ key ++ path.joined ↔ ∀ entry ∈ path.entries, lineFeed ∉ entry.octets := by
    have hkey : lineFeed ∉ key := by decide
    simp [hkey, SearchPath.mem_joined]
  have hrows := rows_append_line_iff (contentOrNothing disk target) (key ++ path.joined)
  rw [hfeed] at hrows
  refine ⟨target, _, hfile, Disk.read_ok_iff.mpr ⟨l, mode, hloc⟩, hrows,
    fun hended hclear hne => ?_⟩
  have hlast := exported?_concat (hrows.mpr ⟨hended, hclear⟩)
  rwa [SearchPath.splitOn_joined hwritten hne] at hlast

/-- A search path that is persisted to a file with one ended row. -/
theorem persist_rows_after_row :
    let disk : Disk := .ofEntries [([Utf8.encode "env"], .file (Utf8.encode "FOO=bar\n") false)]
    let path : SearchPath := ⟨[.ofText "/usr/bin", .ofText "/asdf/shims"]⟩
    ∃ after new, persist (some (.ofText "env")) path disk = (.ok (), after) ∧
      after.read (.ofText "env") = .ok new ∧
      rows new = [Utf8.encode "FOO=bar", Utf8.encode "PATH=/usr/bin:/asdf/shims"] ∧
      exported? new = some path.entries := by
  intro disk path
  have hok : (persist (some (.ofText "env")) path disk).1 = .ok () := by decide +kernel
  have hran : persist (some (.ofText "env")) path disk =
      (.ok (), (persist (some (.ofText "env")) path disk).2) := Prod.ext hok rfl
  obtain ⟨target, new, hfile, hread, hrows, hexported⟩ := persist_rows hran
  cases hfile
  have hended : Ended (contentOrNothing disk (.ofText "env")) := by decide +kernel
  have hclear : ∀ entry ∈ path.entries, lineFeed ∉ entry.octets := by decide +kernel
  refine ⟨_, new, hran, hread, ?_, hexported hended hclear (by decide)⟩
  rw [hrows.mpr ⟨hended, hclear⟩]
  decide +kernel

/-- A search path is joined onto a row that is not ended, and an entry with a line feed is broken
up: neither is one more row. -/
theorem persist_rows_fails :
    let disk : Disk := .ofEntries [([Utf8.encode "env"], .file (Utf8.encode "FOO=bar") false)]
    let file := some (Path.ofText "env")
    ((persist file ⟨[.ofText "/usr/bin"]⟩ disk).1 = .ok () ∧
      ((persist file ⟨[.ofText "/usr/bin"]⟩ disk).2.read (.ofText "env")).map rows =
        .ok [Utf8.encode "FOO=barPATH=/usr/bin"]) ∧
    ((persist file ⟨[.ofText "/a\nb"]⟩ (.ofEntries [])).1 = .ok () ∧
      ((persist file ⟨[.ofText "/a\nb"]⟩ (.ofEntries [])).2.read (.ofText "env")).map rows =
        .ok [Utf8.encode "PATH=/a", Utf8.encode "b"]) := by
  decide +kernel

end CiFile

/-! ## The startup file -/

namespace StartupFile

open Disk

section Steps

variable {path : Path} {marker : String} {added : List String} {disk after : Disk}
  {result : Except Failure Update}

theorem separator_of (old : Bytes) : separator old = if Ended old then [] else [lineFeed] := by
  unfold separator
  by_cases h : Ended old
  · rw [if_pos h, if_neg]
    intro ⟨hnil, hlast⟩
    exact h.elim hnil hlast
  · rw [if_neg h, if_pos ⟨fun hnil => h (Or.inl hnil), fun hlast => h (Or.inr hlast)⟩]
    rfl

theorem separator_length_le (old : Bytes) : (separator old).length ≤ 1 := by
  rw [separator_of]
  split <;> simp

/-- Behind the separator a new row starts. -/
theorem rows_append_separator (old new : Bytes) :
    rows (old ++ separator old ++ new) = rows old ++ rows new := by
  rw [separator_of]
  split
  · rename_i hended
    rw [List.append_nil, rows_append hended]
  · rename_i hended
    obtain ⟨front, last, hlast, hrows, happend⟩ := rows_append_unfinished hended
    rw [List.append_assoc, happend, hrows, List.singleton_append, rows_append_feed,
      List.splitOn_eq_singleton hlast, List.append_assoc]

/-- However few of the octets are written, they have rows of their own. -/
theorem rows_append_part (old : Bytes) {kept new : Bytes} (h : kept <+: separator old ++ new) :
    ∃ part, part <+: new ∧ rows (old ++ kept) = rows old ++ rows part := by
  obtain ⟨back, hback⟩ := h
  rcases List.append_eq_append_iff.mp hback with ⟨rest, hfront, -⟩ | ⟨part, rfl, hnew⟩
  · -- The separator is one octet at most, so that a part of it is nothing or all of it.
    refine ⟨[], List.nil_prefix, ?_⟩
    by_cases hkept : kept = []
    · rw [hkept, List.append_nil, rows_nil, List.append_nil]
    · have hlength := separator_length_le old
      rw [hfront, List.length_append] at hlength
      have hrest : rest = [] := by
        have hpos := List.length_pos_iff.mpr hkept
        exact List.length_eq_zero_iff.mp (by omega)
      have hall := rows_append_separator old []
      rwa [List.append_nil, hfront, hrest, List.append_nil] at hall
  · exact ⟨part, ⟨back, hnew.symm⟩, by rw [← List.append_assoc, rows_append_separator]⟩

/-- Octets have been added to the file that a path leads to, and no other file has changed. What the
file held before is what could be read, if it could be. -/
structure Adds (path : Path) (disk after : Disk) (l : Location) (kept : Bytes) : Prop where
  there : ∃ mode, after.locate path = .ok (l, .file ((disk.content? l).getD [] ++ kept) mode)
  reads : ∀ data, disk.read path = .ok data → (disk.content? l).getD [] = data
  others : ∀ other, other ≠ l → after.content? other = disk.content? other

/-- What is to be added to the file at a location: the lines, behind a separator. -/
def wanted (disk : Disk) (l : Location) (added : List String) : Bytes :=
  separator ((disk.content? l).getD []) ++ block added

section Added

variable {l : Location} {kept : Bytes}

theorem Adds.read_after (h : Adds path disk after l kept) :
    after.read path = .ok ((disk.content? l).getD [] ++ kept) := by
  obtain ⟨mode, hloc⟩ := h.there
  exact read_of_locate hloc

theorem Adds.content_after (h : Adds path disk after l kept) :
    after.content? l = some ((disk.content? l).getD [] ++ kept) := by
  obtain ⟨mode, hloc⟩ := h.there
  rw [content?, (locate_ok_iff.mp hloc).2]

theorem adds_of_put {made : Disk} {mode : Bool} (hextends : Extends disk made)
    (hw : made.writable path = .ok l)
    (hsame : SameNodes (made.put l (.file (made.front l false ++ kept) mode)) after) :
    contentOrNothing made path = (disk.content? l).getD [] ∧ Adds path disk after l kept := by
  have hold : contentOrNothing made path = (disk.content? l).getD [] := by
    rw [contentOrNothing_eq hw, (hextends.2 l).content]
  have hfront : made.front l false = (disk.content? l).getD [] := by
    rw [← hold, contentOrNothing_eq hw]
    rfl
  refine ⟨hold, ⟨mode, ?_⟩, fun data hread => ?_, fun other hother => ?_⟩
  · rw [hfront] at hsame
    exact (hsame.locate path).trans (locate_written hw _ _)
  · rw [← hold, contentOrNothing, hextends.read hread]
  · have hkept : Keeps made after other :=
      Or.inl ((hsame.2 other).trans (node?_put_of_ne made _ hother))
    exact ((hextends.2 other).trans hkept).content

end Added

/-- Either nothing changes but directories that are made, or some of the wanted octets are added,
and all of them exactly if the lines are. -/
theorem Ensured.grows (h : Ensured path marker added disk result after) :
    result ≠ .ok .appended ∧ Extends disk after ∨ ∃ l kept, Adds path disk after l kept ∧
      kept <+: wanted disk l added ∧ (result = .ok .appended ↔ kept = wanted disk l added) := by
  cases h with
  | present => exact Or.inl ⟨by simp, .refl disk⟩
  | unreadable => exact Or.inl ⟨by simp, .refl disk⟩
  | unprepared _ hp => exact Or.inl ⟨by simp, prepared_extends hp⟩
  | unwritten _ hp ha =>
    have hextends := prepared_extends hp
    cases stored_of_eq ha with
    | unopened hsame _ =>
      exact Or.inl ⟨by simp, hextends.trans ⟨hsame.1, fun l => Or.inl (hsame.2 l)⟩⟩
    | @broken _ _ l kept hw _ _ hpart hproper hsame =>
      obtain ⟨hold, hadds⟩ := adds_of_put hextends hw hsame
      rw [hold] at hpart hproper
      exact Or.inr ⟨l, kept, hadds, hpart, iff_of_false (by simp) hproper⟩
  | appended _ hp ha =>
    cases stored_of_eq ha with
    | @whole _ l hw _ _ hsame =>
      obtain ⟨hold, hadds⟩ := adds_of_put (prepared_extends hp) hw hsame
      rw [hold] at hadds
      exact Or.inr ⟨l, _, hadds, List.prefix_rfl, iff_of_true rfl rfl⟩

theorem Ensured.appends (h : Ensured path marker added disk (.ok .appended) after) :
    ∃ l, Adds path disk after l (wanted disk l added) := by
  rcases h.grows with ⟨hne, -⟩ | ⟨l, kept, hadds, -, hiff⟩
  · exact absurd rfl hne
  · rw [hiff.mp rfl] at hadds
    exact ⟨l, hadds⟩

theorem Ensured.content_grows (h : Ensured path marker added disk result after) {l : Location}
    {data : Bytes} (hdata : disk.content? l = some data) :
    ∃ more, after.content? l = some (data ++ more) := by
  rcases h.grows with ⟨-, hextends⟩ | ⟨m, kept, hadds, -, -⟩
  · exact ⟨[], by rw [(hextends.2 l).content, hdata, List.append_nil]⟩
  · by_cases hl : l = m
    · subst hl
      exact ⟨kept, by rw [hadds.content_after, hdata, Option.getD_some]⟩
    · exact ⟨[], by rw [hadds.others l hl, hdata, List.append_nil]⟩

theorem Ensured.read_grows (h : Ensured path marker added disk result after) {data : Bytes}
    (hread : disk.read path = .ok data) : ∃ more, after.read path = .ok (data ++ more) := by
  rcases h.grows with ⟨-, hextends⟩ | ⟨l, kept, hadds, -, -⟩
  · exact ⟨[], by rw [hextends.read hread, List.append_nil]⟩
  · exact ⟨kept, by rw [hadds.read_after, hadds.reads data hread]⟩

/-- A marker can be read in a file. -/
def Holds (disk : Disk) (path : Path) (marker : String) : Prop :=
  ∃ data, disk.read path = .ok data ∧ Utf8.encode marker <:+: data

theorem Ensured.holds_again (h : Ensured path marker added disk result after) {other : String}
    (hholds : Holds disk path other) : Holds after path other := by
  obtain ⟨data, hread, hmark⟩ := hholds
  obtain ⟨more, hmore⟩ := h.read_grows hread
  exact ⟨_, hmore, hmark.trans (List.prefix_append data more).isInfix⟩

theorem Ensured.not_appended_of_holds (h : Ensured path marker added disk result after)
    (hm : IsMarker marker) (hholds : Holds disk path marker) : result ≠ .ok .appended := by
  intro he
  subst he
  obtain ⟨data, hread, hmark⟩ := hholds
  obtain ⟨l, mode, hloc⟩ := read_ok_iff.mp hread
  cases h with
  | appended hu => exact not_unmarked_of_holds hm hmark hloc hu

end Steps

/-! ## Any number of calls -/

/-- The wish to have a manager set up in a shell. -/
structure Request where
  shell : Shell
  manager : Manager

/-- One of several calls: what was asked for, and the disk before and after it. -/
structure Call where
  request : Request
  before : Disk
  result : Except Failure Update
  after : Disk

/-- The mark by which a request is recognised as fulfilled. -/
def Request.marker (request : Request) : String := Manager.startupMarker request.shell

def Request.added (request : Request) : List String :=
  request.manager.startupLines request.shell

def Request.call (request : Request) (path : Path) (disk : Disk) : Call :=
  let ran := ensureLines path request.marker request.added disk
  ⟨request, disk, ran.1, ran.2⟩

/-- Requests made one after the other, with no other writer. -/
def history (path : Path) : List Request → Disk → List Call
  | [], _ => []
  | request :: rest, disk =>
    request.call path disk :: history path rest (request.call path disk).after

/-- Whether a call has added lines for a marker. -/
def Call.adds (marker : String) (call : Call) : Bool :=
  call.request.marker = marker ∧ call.result = .ok .appended

theorem Request.call_ensured (request : Request) (path : Path) (disk : Disk) :
    Ensured path request.marker request.added disk (request.call path disk).result
      (request.call path disk).after := ensureLines_spec _ _ _ _

theorem history_ensured {path : Path} {requests : List Request} {disk : Disk} {call : Call}
    (h : call ∈ history path requests disk) :
    Ensured path call.request.marker call.request.added call.before call.result call.after := by
  induction requests generalizing disk with
  | nil => cases h
  | cons request rest ih =>
    rcases List.mem_cons.mp h with rfl | h
    · exact request.call_ensured path disk
    · exact ih h

theorem history_of_holds {path : Path} {requests : List Request} {disk : Disk} {marker : String}
    (h : Holds disk path marker) : (history path requests disk).filter (Call.adds marker) = [] := by
  induction requests generalizing disk with
  | nil => rfl
  | cons request rest ih =>
    have hensured := request.call_ensured path disk
    have hadds : Call.adds marker (request.call path disk) = false := by
      unfold Call.adds
      by_contra hadds
      obtain ⟨rfl, happended⟩ := of_decide_eq_true (Bool.of_not_eq_false hadds)
      exact hensured.not_appended_of_holds
        (Manager.startupMarker_isMarker request.shell) h happended
    rw [history, List.filter_cons, hadds]
    exact ih (hensured.holds_again h)

/-- Lines are added for a marker at most once. -/
theorem history_adds_le_one (path : Path) (requests : List Request) (disk : Disk)
    (marker : String) :
    ((history path requests disk).filter (Call.adds marker)).length ≤ 1 := by
  induction requests generalizing disk with
  | nil => exact Nat.zero_le 1
  | cons request rest ih =>
    rw [history, List.filter_cons]
    split
    · rename_i hadds
      obtain ⟨rfl, happended⟩ := of_decide_eq_true hadds
      have hensured := request.call_ensured path disk
      rw [happended] at hensured
      have hholds := hensured.holds (request.manager.marker_in_startupLines request.shell)
      have hnone : (history path rest (request.call path disk).after).filter
          (Call.adds request.marker) = [] := history_of_holds hholds
      show (_ :: (history path rest _).filter (Call.adds request.marker)).length ≤ 1
      rw [hnone]
      exact Nat.le_refl 1
    · exact ih _

theorem history_content_grows {path : Path} {requests : List Request} {disk : Disk} {call : Call}
    (h : call ∈ history path requests disk) {l : Location} {data : Bytes}
    (hdata : disk.content? l = some data) :
    ∃ more, call.after.content? l = some (data ++ more) := by
  induction requests generalizing disk data with
  | nil => cases h
  | cons request rest ih =>
    obtain ⟨more, hmore⟩ := (request.call_ensured path disk).content_grows hdata
    rcases List.mem_cons.mp h with rfl | h
    · exact ⟨more, hmore⟩
    · obtain ⟨again, hagain⟩ := ih h hmore
      exact ⟨more ++ again, by rw [hagain, List.append_assoc]⟩

theorem Request.added_eq (request : Request) :
    ∃ first second, request.added = [first, second] := by
  unfold Request.added
  cases request.shell <;> exact ⟨_, _, rfl⟩

/-- Over any sequence of calls, lines are added for a marker at most once. A call that finds the
marker changes nothing. One that adds lines puts the two of them behind what the file held, on rows
of their own, and changes no other file. One that fails leaves every file as it was, unless its
writing broke off: then a part of what was to be added stands behind what the file held, on rows of
its own. So every file keeps the octets in front that it had at first. -/
theorem history_adds_once (path : Path) (requests : List Request) (disk : Disk) :
    (∀ marker, ((history path requests disk).filter (Call.adds marker)).length ≤ 1) ∧
      ∀ call ∈ history path requests disk,
        (call.result = .ok .alreadyPresent → call.after = call.before) ∧
        (∀ failure, call.result = .error failure →
          (∀ l, call.after.content? l = call.before.content? l) ∨
          ∃ l kept,
            let old := (call.before.content? l).getD []
            let lines := block call.request.added
            (∀ data, call.before.read path = .ok data → old = data) ∧
              kept <+: separator old ++ lines ∧ kept ≠ separator old ++ lines ∧
              call.after.read path = .ok (old ++ kept) ∧
              call.after.content? l = some (old ++ kept) ∧
              (∃ part, part <+: lines ∧ rows (old ++ kept) = rows old ++ rows part) ∧
              ∀ other, other ≠ l → call.after.content? other = call.before.content? other) ∧
        (call.result = .ok .appended → ∃ l first second,
          let old := (call.before.content? l).getD []
          let ended := old ++ if Ended old then [] else [lineFeed]
          let lines := Utf8.encode first ++ [lineFeed] ++ (Utf8.encode second ++ [lineFeed])
          (∀ data, call.before.read path = .ok data → old = data) ∧
            call.request.added = [first, second] ∧
            call.after.read path = .ok (ended ++ lines) ∧
            call.after.content? l = some (ended ++ lines) ∧
            rows (ended ++ lines) = rows old ++ rows lines ∧
            ∀ other, other ≠ l → call.after.content? other = call.before.content? other) ∧
        ∀ l data, disk.content? l = some data →
          ∃ more, call.after.content? l = some (data ++ more) := by
  refine ⟨history_adds_le_one path requests disk, fun call hcall => ?_⟩
  have hensured := history_ensured hcall
  refine ⟨fun hpresent => ?_, fun failure hfailed => ?_, fun happended => ?_, fun l data hdata =>
    history_content_grows hcall hdata⟩
  · rw [hpresent] at hensured
    generalize call.after = after at hensured
    cases hensured with
    | present => rfl
  · rcases hensured.grows with ⟨-, hextends⟩ | ⟨l, kept, hadds, hpart, hiff⟩
    · exact Or.inl fun l => (hextends.2 l).content
    · have hproper : kept ≠ wanted call.before l call.request.added := fun hall => by
        rw [hiff.mpr hall] at hfailed
        cases hfailed
      exact Or.inr ⟨l, kept, hadds.reads, hpart, hproper, hadds.read_after, hadds.content_after,
        rows_append_part _ hpart, hadds.others⟩
  · rw [happended] at hensured
    obtain ⟨l, hadds⟩ := hensured.appends
    obtain ⟨first, second, hadded⟩ := call.request.added_eq
    have hblock : block call.request.added =
        Utf8.encode first ++ [lineFeed] ++ (Utf8.encode second ++ [lineFeed]) := by
      rw [hadded]
      simp [block, lineFeed]
    have hread := hadds.read_after
    have hcontent := hadds.content_after
    have hrows := rows_append_separator ((call.before.content? l).getD [])
      (block call.request.added)
    rw [wanted, ← List.append_assoc, hblock, separator_of] at hread hcontent
    rw [hblock, separator_of] at hrows
    exact ⟨l, first, second, hadds.reads, hadded, hread, hcontent, hrows, hadds.others⟩

/-- A call may fail and leave the file changed, where the device is full in the middle of a line.
And lines may be put behind something though nothing was at the path, where a file comes into reach
with the directories that are made. -/
theorem history_breaks_off :
    let request : Request := ⟨.bash, ⟨"", "", .ofText "/asdf"⟩⟩
    let file : Location × Node := ([Utf8.encode "rc"], .file (Utf8.encode "x") false)
    (let path := Path.ofText "/rc"
      let call := request.call path ⟨[file], [], [none, some ⟨.noSpace, 3⟩]⟩
      call.result = .error (.io .noSpace) ∧ call.before.read path = .ok (Utf8.encode "x") ∧
        call.after.read path = .ok (Utf8.encode "x\n. ")) ∧
    (let path := Path.ofText "/d/../rc"
      let call := request.call path (.ofEntries [file])
      call.result = .ok .appended ∧ call.before.pathExists path = false ∧
        call.after.read path = .ok (Utf8.encode "x\n" ++ block request.added)) := by
  decide +kernel

end StartupFile

end ToolBootstrap
