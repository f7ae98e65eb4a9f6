import ToolBootstrap.Disk

/- Where paths lead.

   `Leads` is the walk along the names of a path as a derivation: one rule for each way in which a
   name is taken, and a bound on the links that are followed. `walkWithin_iff` says that it is the
   walk of a disk. What a walk keeps when a disk changes is shown by induction on the derivation:
   `Leads.retain` for disks on which everything stays where it is, `Leads.split` for the directory
   in the middle of a path. -/

namespace ToolBootstrap

/-- A node that is no link: a walk stays where it is. -/
def Node.Stays (node : Node) : Prop := ∀ target, node ≠ .link target

namespace Disk

/-! ## Nodes -/

theorem node?_nil (disk : Disk) : disk.node? [] = some .directory := if_pos rfl

theorem node?_of_ne_nil (disk : Disk) {l : Location} (hl : l ≠ []) :
    disk.node? l = disk.entries.lookup l := if_neg hl

theorem lookup_filter (keep : Location → Bool) (entries : List (Location × Node)) (l : Location) :
    (entries.filter fun e => keep e.1).lookup l = if keep l then entries.lookup l else none := by
  induction entries with
  | nil => simp
  | cons entry rest ih =>
    obtain ⟨m, node⟩ := entry
    by_cases hm : l = m
    · subst hm
      cases hk : keep l <;> simp [hk, ih]
    · have hne : (l == m) = false := by simpa using hm
      cases hk : keep m <;> simp [hk, ih, hne, List.lookup_cons]

theorem node?_put_self (disk : Disk) {l : Location} (node : Node) (hl : l ≠ []) :
    (disk.put l node).node? l = some node := by
  rw [node?_of_ne_nil _ hl]
  exact List.lookup_cons_self

theorem node?_put_of_ne (disk : Disk) {l m : Location} (node : Node) (h : m ≠ l) :
    (disk.put l node).node? m = disk.node? m := by
  by_cases hm : m = []
  · rw [hm, node?_nil, node?_nil]
  · have hne : (m == l) = false := by simpa using h
    rw [node?_of_ne_nil _ hm, node?_of_ne_nil _ hm, put, List.lookup_cons, hne]
    exact (lookup_filter (fun x => x != l) disk.entries m).trans (if_pos (bne_iff_ne.mpr h))

theorem isPrefixOf_eq_false {l m : Location} (h : ¬ l <+: m) : l.isPrefixOf m = false :=
  Bool.eq_false_iff.mpr fun hp => h (List.isPrefixOf_iff_prefix.mp hp)

theorem node?_erase_of_not_prefix (disk : Disk) {l m : Location} (h : ¬ l <+: m) :
    (disk.erase l).node? m = disk.node? m := by
  by_cases hm : m = []
  · rw [hm, node?_nil, node?_nil]
  · have hne := isPrefixOf_eq_false h
    rw [node?_of_ne_nil _ hm, node?_of_ne_nil _ hm, erase]
    simp only [lookup_filter (fun x => !l.isPrefixOf x), hne, Bool.not_false, if_true]

theorem node?_erase_of_prefix (disk : Disk) {l m : Location} (hl : l ≠ []) (h : l <+: m) :
    (disk.erase l).node? m = none := by
  have hm : m ≠ [] := by
    intro he
    subst he
    exact hl (List.prefix_nil.mp h)
  rw [node?_of_ne_nil _ hm, erase]
  simp only [lookup_filter (fun x => !l.isPrefixOf x), List.isPrefixOf_iff_prefix.mpr h,
    Bool.not_true, Bool.false_eq_true, if_false]

theorem node?_clear_of_not_prefix (disk : Disk) {l m : Location} (h : ¬ l <+: m) :
    (disk.clear l).node? m = disk.node? m := by
  by_cases hm : m = []
  · rw [hm, node?_nil, node?_nil]
  · have hne := isPrefixOf_eq_false h
    rw [node?_of_ne_nil _ hm, node?_of_ne_nil _ hm, clear]
    simp only [lookup_filter (fun x => !(l.isPrefixOf x && l != x)), hne, Bool.false_and,
      Bool.not_false, if_true]

theorem node?_clear_self (disk : Disk) (l : Location) : (disk.clear l).node? l = disk.node? l := by
  by_cases hl : l = []
  · rw [hl, node?_nil, node?_nil]
  · rw [node?_of_ne_nil _ hl, node?_of_ne_nil _ hl, clear]
    simp only [lookup_filter (fun x => !(l.isPrefixOf x && l != x)), bne_self_eq_false,
      Bool.and_false, Bool.not_false, if_true]

/-! ## Walks as derivations -/

/-- Names can lead further from a location. -/
def HasDirectory (disk : Disk) (l : Location) : Prop :=
  ∃ node, disk.node? l = some node ∧ node.isDirectory = true

/-- A name that an entry can have. -/
def Plain (name : Bytes) : Prop := name ≠ dotName ∧ name ≠ dotDotName ∧ name.length ≤ nameLimit

/-- Names lead from a location to a landing, past no more than some number of links. -/
inductive Leads (disk : Disk) (final : Bool) : Nat → Location → List Bytes → Landing → Prop where
  | here (links : Nat) (base : Location) : Leads disk final links base [] (.found base)
  | dot {links base rest landing} : disk.HasDirectory base →
    Leads disk final links base rest landing →
      Leads disk final links base (dotName :: rest) landing
  | up {links base rest landing} : disk.HasDirectory base →
      Leads disk final links base.dropLast rest landing →
      Leads disk final links base (dotDotName :: rest) landing
  | vacant {links base name} : disk.HasDirectory base → Plain name →
      disk.node? (base ++ [name]) = none →
      Leads disk final links base [name] (.vacant (base ++ [name]))
  | stop {links base name target} : disk.HasDirectory base → Plain name → final = false →
      disk.node? (base ++ [name]) = some (.link target) →
      Leads disk final links base [name] (.found (base ++ [name]))
  | follow {links base name rest target landing} : disk.HasDirectory base → Plain name →
      disk.node? (base ++ [name]) = some (.link target) → (rest = [] → final = true) →
      Leads disk final links (origin target base) (names target ++ rest) landing →
      Leads disk final (links + 1) base (name :: rest) landing
  | through {links base name rest node landing} : disk.HasDirectory base → Plain name →
      disk.node? (base ++ [name]) = some node → node.Stays →
      Leads disk final links (base ++ [name]) rest landing →
      Leads disk final links base (name :: rest) landing

/-- What a walk does at a link. -/
def onLink (disk : Disk) (final : Bool) : Nat → Location → List Bytes → Except IoFault Landing
  | 0 => fun _ _ => .error .linkLoop
  | links + 1 => disk.walkWithin final links

theorem walkWithin_eq (disk : Disk) (final : Bool) (links : Nat) :
    disk.walkWithin final links = disk.walkNames (disk.onLink final links) final := by
  cases links <;> rfl

section Names

variable {disk : Disk} {on : Location → List Bytes → Except IoFault Landing} {final : Bool}
  {base : Location} {name : Bytes} {rest : List Bytes}

theorem walkNames_dot (hd : disk.HasDirectory base) :
    disk.walkNames on final base (dotName :: rest) = disk.walkNames on final base rest := by
  obtain ⟨node, hnode, hdir⟩ := hd
  rw [walkNames, hnode]
  simp [hdir]

theorem walkNames_up (hd : disk.HasDirectory base) :
    disk.walkNames on final base (dotDotName :: rest) =
      disk.walkNames on final base.dropLast rest := by
  obtain ⟨node, hnode, hdir⟩ := hd
  have hne : dotDotName ≠ dotName := by decide
  rw [walkNames, hnode]
  simp [hdir, hne]

theorem walkNames_plain (hd : disk.HasDirectory base) (hp : Plain name) :
    disk.walkNames on final base (name :: rest) =
      match disk.node? (base ++ [name]) with
      | none => if rest = [] then .ok (.vacant (base ++ [name])) else .error .noEntry
      | some (.link target) =>
        if rest = [] ∧ final = false then .ok (.found (base ++ [name]))
        else on (origin target base) (names target ++ rest)
      | some _ => disk.walkNames on final (base ++ [name]) rest := by
  obtain ⟨node, hnode, hdir⟩ := hd
  obtain ⟨hdot, hup, hlen⟩ := hp
  rw [walkNames, hnode]
  have hcond : ¬ (!node.isDirectory) = true := by simp [hdir]
  exact (if_neg hcond).trans ((if_neg hdot).trans ((if_neg hup).trans
    (if_neg (Nat.not_lt.mpr hlen))))

theorem hasDirectory_of_walkNames {landing : Landing}
    (h : disk.walkNames on final base (name :: rest) = .ok landing) :
    disk.HasDirectory base ∧ (name ≠ dotName → name ≠ dotDotName → Plain name) := by
  rw [walkNames] at h
  split at h
  · cases h
  rename_i here hbase
  split at h
  · cases h
  rename_i hdir
  refine ⟨⟨here, hbase, by simpa using hdir⟩, fun hdot hup => ⟨hdot, hup, ?_⟩⟩
  rw [if_neg hdot, if_neg hup] at h
  split at h
  · cases h
  · exact Nat.le_of_not_lt ‹_›

end Names

theorem leads_of_walkNames {disk : Disk} {final : Bool} {links : Nat}
    (hon : ∀ base names landing, disk.onLink final links base names = .ok landing →
      ∃ fewer, links = fewer + 1 ∧ Leads disk final fewer base names landing)
    {base : Location} {path : List Bytes} {landing : Landing}
    (h : disk.walkNames (disk.onLink final links) final base path = .ok landing) :
    Leads disk final links base path landing := by
  -- The induction is on the names; the walk behind a link is `hon`, by induction on the links.
  induction path generalizing base with
  | nil =>
    cases h
    exact .here links base
  | cons name rest ih =>
    obtain ⟨hd, hplain⟩ := hasDirectory_of_walkNames h
    by_cases hdot : name = dotName
    · subst hdot
      rw [walkNames_dot hd] at h
      exact .dot hd (ih h)
    by_cases hup : name = dotDotName
    · subst hup
      rw [walkNames_up hd] at h
      exact .up hd (ih h)
    have hp := hplain hdot hup
    rw [walkNames_plain hd hp] at h
    split at h
    · rename_i hnode
      split at h
      · rename_i hrest
        subst hrest
        cases h
        exact .vacant hd hp hnode
      · cases h
    · rename_i target hnode
      split at h
      · rename_i hstop
        obtain ⟨rfl, hfinal⟩ := hstop
        cases h
        exact .stop hd hp hfinal hnode
      · rename_i hgo
        obtain ⟨fewer, rfl, hl⟩ := hon _ _ _ h
        exact .follow hd hp hnode (fun hr => by simpa [hr] using hgo) hl
    · rename_i node hstays hnode
      exact .through hd hp hnode hstays (ih h)

theorem walkNames_of_leads {disk : Disk} {final : Bool} {links : Nat} {base : Location}
    {path : List Bytes} {landing : Landing} (h : Leads disk final links base path landing) :
    disk.walkWithin final links base path = .ok landing := by
  induction h with
  | here links base => rw [walkWithin_eq, walkNames]
  | dot hd _ ih =>
    rw [walkWithin_eq] at ih ⊢
    rw [walkNames_dot hd, ih]
  | up hd _ ih =>
    rw [walkWithin_eq] at ih ⊢
    rw [walkNames_up hd, ih]
  | vacant hd hp hfree =>
    rw [walkWithin_eq, walkNames_plain hd hp, hfree]
    exact if_pos rfl
  | stop hd hp hfinal hlink =>
    rw [walkWithin_eq, walkNames_plain hd hp, hlink]
    exact if_pos ⟨rfl, hfinal⟩
  | @follow links base name rest target landing hd hp hlink hgo _ ih =>
    have hon : ¬ (rest = [] ∧ final = false) := by
      intro ⟨hr, hf⟩
      rw [hgo hr] at hf
      cases hf
    rw [walkWithin_eq, walkNames_plain hd hp, hlink]
    exact (if_neg hon).trans ih
  | @through links base name rest inner landing hd hp hinner hstays _ ih =>
    rw [walkWithin_eq] at ih ⊢
    rw [walkNames_plain hd hp, hinner]
    cases inner with
    | link target => exact absurd rfl (hstays target)
    | file data executable => exact ih
    | directory => exact ih
    | repository repository => exact ih

/-- The walk of a disk is the derivation. -/
theorem walkWithin_iff {disk : Disk} {final : Bool} {links : Nat} {base : Location}
    {path : List Bytes} {landing : Landing} :
    disk.walkWithin final links base path = .ok landing ↔
      Leads disk final links base path landing := by
  refine ⟨fun h => ?_, walkNames_of_leads⟩
  induction links generalizing base path landing with
  | zero =>
    rw [walkWithin_eq] at h
    exact leads_of_walkNames (fun _ _ _ hon => by cases hon) h
  | succ links ih =>
    rw [walkWithin_eq] at h
    exact leads_of_walkNames (fun _ _ _ hon => ⟨links, rfl, ih hon⟩) h

/-! ## Landings -/

theorem Leads.vacant_spec {disk : Disk} {final : Bool} {links : Nat} {base l : Location}
    {path : List Bytes} (h : Leads disk final links base path (.vacant l)) :
    disk.node? l = none ∧ ∃ above name, l = above ++ [name] ∧ disk.HasDirectory above := by
  generalize hl : Landing.vacant l = landing at h
  induction h with
  | here links base => cases hl
  | dot _ _ ih => exact ih hl
  | up _ _ ih => exact ih hl
  | vacant hd _ hfree =>
    cases hl
    exact ⟨hfree, _, _, rfl, hd⟩
  | stop => cases hl
  | follow _ _ _ _ _ ih => exact ih hl
  | through _ _ _ _ _ ih => exact ih hl

/-- A walk leads through the directory in which it is cut. -/
theorem Leads.split {disk : Disk} {final : Bool} {links : Nat} {base : Location}
    {front back : List Bytes} {landing : Landing}
    (h : Leads disk final links base (front ++ back) landing) (hback : back ≠ []) :
    ∃ fewer middle, fewer ≤ links ∧ Leads disk true links base front (.found middle) ∧
      disk.HasDirectory middle ∧ Leads disk final fewer middle back landing := by
  generalize hp : front ++ back = path at h
  -- The cut is in front of the first name, or behind it and thus in the rest of the walk.
  induction h generalizing front with
  | here links base => exact absurd (List.append_eq_nil_iff.mp hp).2 hback
  | dot hd h ih =>
    rcases List.append_eq_cons_iff.mp hp with ⟨rfl, rfl⟩ | ⟨front, rfl, rfl⟩
    · exact ⟨_, _, Nat.le_refl _, .here _ _, hd, .dot hd h⟩
    · obtain ⟨fewer, middle, hle, hfront, hmiddle, hlast⟩ := ih rfl
      exact ⟨fewer, middle, hle, .dot hd hfront, hmiddle, hlast⟩
  | up hd h ih =>
    rcases List.append_eq_cons_iff.mp hp with ⟨rfl, rfl⟩ | ⟨front, rfl, rfl⟩
    · exact ⟨_, _, Nat.le_refl _, .here _ _, hd, .up hd h⟩
    · obtain ⟨fewer, middle, hle, hfront, hmiddle, hlast⟩ := ih rfl
      exact ⟨fewer, middle, hle, .up hd hfront, hmiddle, hlast⟩
  | vacant hd hn hfree =>
    rcases List.append_eq_cons_iff.mp hp with ⟨rfl, rfl⟩ | ⟨front, rfl, hb⟩
    · exact ⟨_, _, Nat.le_refl _, .here _ _, hd, .vacant hd hn hfree⟩
    · exact absurd (List.append_eq_nil_iff.mp hb.symm).2 hback
  | stop hd hn hfinal hlink =>
    rcases List.append_eq_cons_iff.mp hp with ⟨rfl, rfl⟩ | ⟨front, rfl, hb⟩
    · exact ⟨_, _, Nat.le_refl _, .here _ _, hd, .stop hd hn hfinal hlink⟩
    · exact absurd (List.append_eq_nil_iff.mp hb.symm).2 hback
  | follow hd hn hlink hgo h ih =>
    rcases List.append_eq_cons_iff.mp hp with ⟨rfl, rfl⟩ | ⟨front, rfl, rfl⟩
    · exact ⟨_, _, Nat.le_refl _, .here _ _, hd, .follow hd hn hlink hgo h⟩
    · obtain ⟨fewer, middle, hle, hfront, hmiddle, hlast⟩ := ih (List.append_assoc _ _ _)
      exact ⟨fewer, middle, Nat.le_succ_of_le hle, .follow hd hn hlink (fun _ => rfl) hfront,
        hmiddle, hlast⟩
  | through hd hn hnode hstays h ih =>
    rcases List.append_eq_cons_iff.mp hp with ⟨rfl, rfl⟩ | ⟨front, rfl, rfl⟩
    · exact ⟨_, _, Nat.le_refl _, .here _ _, hd, .through hd hn hnode hstays h⟩
    · obtain ⟨fewer, middle, hle, hfront, hmiddle, hlast⟩ := ih rfl
      exact ⟨fewer, middle, hle, .through hd hn hnode hstays hfront, hmiddle, hlast⟩

/-- Two walks that follow the last link are one walk, if the second starts where the first ends. -/
theorem Leads.concat {disk : Disk} {final : Bool} {links : Nat} {base middle : Location}
    {front back : List Bytes} {landing : Landing}
    (h : Leads disk true links base front (.found middle)) (hne : back ≠ [])
    (hback : ∀ fewer, Leads disk final fewer middle back landing) :
    Leads disk final links base (front ++ back) landing := by
  generalize hland : Landing.found middle = found at h
  induction h with
  | here links base =>
    cases hland
    exact hback links
  | dot hd _ ih => exact .dot hd (ih hland)
  | up hd _ ih => exact .up hd (ih hland)
  | vacant => cases hland
  | stop _ _ hfinal => cases hfinal
  | follow hd hn hlink _ _ ih =>
    have hrest := ih hland
    rw [List.append_assoc] at hrest
    exact .follow hd hn hlink (fun hnil => absurd (List.append_eq_nil_iff.mp hnil).2 hne) hrest
  | through hd hn hnode hstays _ ih => exact .through hd hn hnode hstays (ih hland)

theorem Leads.unique {disk : Disk} {final : Bool} {links : Nat} {base : Location}
    {path : List Bytes} {landing landing' : Landing} (h : Leads disk final links base path landing)
    (h' : Leads disk final links base path landing') : landing = landing' :=
  Except.ok.inj ((walkWithin_iff.mpr h).symm.trans (walkWithin_iff.mpr h'))

/-! ## Following the last link or not -/

/-- A walk to a free name meets no link at its end. -/
theorem Leads.vacant_following {disk : Disk} {links : Nat} {base l : Location} {path : List Bytes}
    (h : Leads disk false links base path (.vacant l)) :
    Leads disk true links base path (.vacant l) := by
  generalize hl : Landing.vacant l = landing at h
  induction h with
  | here => cases hl
  | dot hd _ ih => exact .dot hd (ih hl)
  | up hd _ ih => exact .up hd (ih hl)
  | vacant hd hp hfree => exact .vacant hd hp hfree
  | stop => cases hl
  | follow hd hp hlink _ _ ih => exact .follow hd hp hlink (fun _ => rfl) (ih hl)
  | through hd hp hnode hstays _ ih => exact .through hd hp hnode hstays (ih hl)

/-- A walk that follows the last link finds something also where it stops at that link. -/
theorem Leads.found_stopping {disk : Disk} {links : Nat} {base l : Location} {path : List Bytes}
    (h : Leads disk true links base path (.found l)) :
    ∃ m, Leads disk false links base path (.found m) := by
  generalize hl : Landing.found l = landing at h
  induction h with
  | here links base => exact ⟨base, .here links base⟩
  | dot hd _ ih =>
    obtain ⟨m, hm⟩ := ih hl
    exact ⟨m, .dot hd hm⟩
  | up hd _ ih =>
    obtain ⟨m, hm⟩ := ih hl
    exact ⟨m, .up hd hm⟩
  | vacant => cases hl
  | stop hd hn hfinal => cases hfinal
  | @follow links base name rest target landing hd hn hlink _ _ ih =>
    by_cases hrest : rest = []
    · subst hrest
      exact ⟨_, .stop hd hn rfl hlink⟩
    · obtain ⟨m, hm⟩ := ih hl
      exact ⟨m, .follow hd hn hlink (fun hr => absurd hr hrest) hm⟩
  | through hd hn hnode hstays _ ih =>
    obtain ⟨m, hm⟩ := ih hl
    exact ⟨m, .through hd hn hnode hstays hm⟩

/-! ## Walks on disks that change -/

end Disk

/-- A node stands in for another one: the same node, or a file for a file. -/
inductive Node.Alike : Node → Node → Prop where
  | same (node : Node) : Alike node node
  | files (data data' : Bytes) (mode mode' : Bool) : Alike (.file data mode) (.file data' mode')

theorem Node.Alike.isDirectory {node other : Node} (h : node.Alike other) :
    other.isDirectory = node.isDirectory := by
  cases h <;> rfl

theorem Node.Alike.stays {node other : Node} (h : node.Alike other) (hs : node.Stays) :
    other.Stays := by
  cases h with
  | same => exact hs
  | files => exact fun _ => Node.noConfusion

theorem Node.Alike.link {target : Bytes} {other : Node} (h : (Node.link target).Alike other) :
    other = .link target := by
  cases h
  rfl

namespace Disk

/-- Everything that stands on a disk still stands where it did; a file may hold something else. -/
def Retains (disk after : Disk) : Prop :=
  ∀ l node, disk.node? l = some node → ∃ other, after.node? l = some other ∧ node.Alike other

theorem HasDirectory.retain {disk after : Disk} {l : Location} (h : disk.HasDirectory l)
    (hr : disk.Retains after) : after.HasDirectory l := by
  obtain ⟨node, hnode, hdir⟩ := h
  obtain ⟨other, hother, halike⟩ := hr l node hnode
  exact ⟨other, hother, by rw [halike.isDirectory, hdir]⟩

/-- A walk ends where it did once everything is retained and what was free is taken. -/
theorem Leads.retain {disk after : Disk} {final : Bool} {links : Nat} {base l : Location}
    {path : List Bytes} {landing : Landing} (h : Leads disk final links base path landing)
    (hr : disk.Retains after) (hl : landing = .found l ∨ landing = .vacant l ∧
      ∃ node, after.node? l = some node ∧ node.Stays) :
    Leads after final links base path (.found l) := by
  induction h with
  | here links base =>
    rcases hl with hl | ⟨hl, _⟩ <;> cases hl
    exact .here links l
  | dot hd _ ih => exact .dot (hd.retain hr) (ih hl)
  | up hd _ ih => exact .up (hd.retain hr) (ih hl)
  | vacant hd hn hfree =>
    rcases hl with hl | ⟨hl, node, hnode, hstays⟩ <;> cases hl
    exact .through (hd.retain hr) hn hnode hstays (.here _ _)
  | stop hd hn hfinal hlink =>
    rcases hl with hl | ⟨hl, _⟩ <;> cases hl
    obtain ⟨other, hother, halike⟩ := hr _ _ hlink
    exact .stop (hd.retain hr) hn hfinal (by rw [hother, halike.link])
  | follow hd hn hlink hgo _ ih =>
    obtain ⟨other, hother, halike⟩ := hr _ _ hlink
    exact .follow (hd.retain hr) hn (by rw [hother, halike.link]) hgo (ih hl)
  | through hd hn hnode hstays _ ih =>
    obtain ⟨other, hother, halike⟩ := hr _ _ hnode
    exact .through (hd.retain hr) hn hother (halike.stays hstays) (ih hl)

end Disk

end ToolBootstrap
