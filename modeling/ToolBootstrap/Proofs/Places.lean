import ToolBootstrap.Proofs.Checkout
import ToolBootstrap.Proofs.Parents

/- Places that are made on a disk.

   On a tree nothing stands below a free location. So a directory that is made there is empty
   (`Fresh`), and its path leads to it and to nothing that was there before. A path that leads
   nowhere, also once the directories above it are made (`Clear`), is either made as such a place or
   leads nowhere still (`makePlace_cases`); a path that never leads up is always clear
   (`clear_of_neverUp`). What is put below the place is found by the path, and once all of it is
   gone the path leads nowhere (`Names.gone`). -/

namespace ToolBootstrap

namespace Disk

/-! ## Trees -/

/-- Every entry stands in a directory. -/
def IsTree (disk : Disk) : Prop :=
  ∀ l name node, disk.node? (l ++ [name]) = some node → disk.HasDirectory l

/-- It is enough to look at what is above each entry. -/
theorem isTree_iff {disk : Disk} :
    disk.IsTree ↔ ∀ e ∈ disk.entries, (disk.node? e.1.dropLast).any Node.isDirectory = true := by
  have hdirectory : ∀ l, disk.HasDirectory l ↔ (disk.node? l).any Node.isDirectory = true := by
    intro l
    rw [Option.any_eq_true, HasDirectory]
  constructor
  · intro h e he
    obtain hroot | ⟨above, name, hname⟩ := List.eq_nil_or_concat' e.1
    · rw [hroot]
      rfl
    · obtain ⟨node, hnode⟩ : ∃ node, disk.node? (above ++ [name]) = some node := by
        rw [node?, if_neg (by simp), ← hname]
        refine Option.ne_none_iff_exists'.mp fun hnone => ?_
        have hdiffers := List.lookup_eq_none_iff.mp hnone e he
        exact absurd hdiffers (by simp)
      rw [hname, List.dropLast_concat]
      exact (hdirectory above).mp (h above name node hnode)
  · intro h l name node hnode
    rw [node?, if_neg (by simp)] at hnode
    obtain ⟨front, back, hentries, _⟩ := List.lookup_eq_some_iff.mp hnode
    have habove := h (l ++ [name], node) (by simp [hentries])
    rw [List.dropLast_concat] at habove
    exact (hdirectory l).mpr habove

instance (disk : Disk) : Decidable disk.IsTree := decidable_of_iff _ isTree_iff.symm

theorem IsTree.vacant_below {disk : Disk} (h : disk.IsTree) {l : Location}
    (hfree : disk.node? l = none) (more : Location) : disk.node? (l ++ more) = none := by
  induction more using List.reverseRecOn with
  | nil => rwa [List.append_nil]
  | append_singleton more name ih =>
    cases hnode : disk.node? (l ++ (more ++ [name])) with
    | none => rfl
    | some node =>
      rw [← List.append_assoc] at hnode
      obtain ⟨_, hsome, _⟩ := h _ _ _ hnode
      rw [ih] at hsome
      cases hsome

theorem IsTree.not_below {disk : Disk} (h : disk.IsTree) {l m : Location} {node : Node}
    (hfree : disk.node? l = none) (hm : disk.node? m = some node) : ¬ l <+: m := by
  intro ⟨more, he⟩
  subst he
  rw [h.vacant_below hfree more] at hm
  cases hm

theorem Extends.retains {disk after : Disk} (h : Extends disk after) : disk.Retains after :=
  retains_of_keeps fun l _ => h.2 l

theorem Extends.node {disk after : Disk} (h : Extends disk after) {l : Location} {node : Node}
    (hnode : disk.node? l = some node) : after.node? l = some node := by
  rcases h.2 l with hkeep | ⟨hnone, _⟩
  · rw [hkeep, hnode]
  · rw [hnode] at hnone
    cases hnone

theorem Extends.free {disk after : Disk} (h : Extends disk after) {l : Location}
    (hfree : after.node? l = none) : disk.node? l = none := by
  cases hnode : disk.node? l with
  | none => rfl
  | some node =>
    rw [h.node hnode] at hfree
    cases hfree

/-! ## Paths that name a directory -/

/-- A path names a directory by its own name, not by a link, a dot or two. -/
structure Names (disk : Disk) (path : Path) (base : Location) : Prop where
  accepted : refused? path = none
  leads (final : Bool) : Leads disk final linkLimit (origin path.octets disk.workingDirectory)
    (runs path.octets) (.found base)
  directory : disk.node? base = some .directory
  last : ∃ name, (runs path.octets).getLast? = some name ∧ name ≠ dotName ∧ name ≠ dotDotName

section Named

variable {disk after : Disk} {path : Path} {base : Location}

theorem Names.hasDirectory (h : Names disk path base) : disk.HasDirectory base :=
  ⟨.directory, h.directory, rfl⟩

theorem Names.resolve (h : Names disk path base) (final : Bool) :
    disk.resolve final path = .ok (.found base) := by
  refine resolve_ok_iff.mpr ⟨h.accepted, ?_⟩
  obtain ⟨tail, htail, rfl | rfl⟩ := names_eq path.octets
  · rw [htail, List.append_nil]
    exact h.leads final
  · rw [htail]
    exact (h.leads true).concat_dot h.hasDirectory

theorem Names.locate (h : Names disk path base) : disk.locate path = .ok (base, .directory) :=
  locate_ok_iff.mpr ⟨h.resolve true, h.directory⟩

theorem Names.pathExists (h : Names disk path base) : disk.pathExists path = true := by
  rw [Disk.pathExists, h.locate]
  rfl

theorem Names.retain (h : Names disk path base) (hr : disk.Retains after)
    (hwd : after.workingDirectory = disk.workingDirectory) : Names after path base where
  accepted := h.accepted
  leads final := by
    rw [hwd]
    exact (h.leads final).retain hr (Or.inl rfl)
  directory := by
    obtain ⟨other, hother, halike⟩ := hr base .directory h.directory
    cases halike
    exact hother
  last := h.last

theorem Names.gone (h : Names disk path base) (hbeside : SameBeside base disk after)
    (hbelow : ∀ l, base <+: l → after.node? l = none) : after.pathExists path = false := by
  refine pathExists_eq_false ?_
  intro ⟨l, node⟩ hloc
  -- What is found with the directory gone is found with it in place, and that is the directory.
  have hkeeps : ∀ l, after.node? l ≠ none → Keeps after disk l := by
    intro l hl
    have hnot : ¬ base <+: l := fun hpre => hl (hbelow l hpre)
    exact Or.inl (hbeside.2 l hnot).symm
  have hthere := locate_of_keeps hkeeps hbeside.1.symm hloc
  rw [h.locate] at hthere
  cases hthere
  have hgone := (locate_ok_iff.mp hloc).2
  rw [hbelow base List.prefix_rfl] at hgone
  cases hgone

theorem Names.removeDirectory (h : Names disk path base) :
    disk.removeDirectory path = disk.erase base := by
  obtain ⟨name, hname, hdot, hup⟩ := h.last
  unfold Disk.removeDirectory Disk.remove
  rw [h.resolve false]
  simp only [h.directory, hname, hdot, hup, or_self, if_false]

theorem refused?_eq_none_iff : refused? path = none ↔ 0 ∉ path.octets ∧ path.octets ≠ [] := by
  unfold refused?
  split
  · rename_i hnul
    simpa using fun h : 0 ∉ path.octets => absurd (by simpa using hnul) h
  · rename_i hnul
    split
    · rename_i hempty
      simp [hempty]
    · rename_i hempty
      simpa [hempty] using hnul

end Named

/-! ## Making one directory -/

/-- A directory that a path names has been made where nothing stood, and is empty. -/
structure Fresh (disk made : Disk) (path : Path) (base : Location) : Prop where
  names : Names made path base
  free : disk.node? base = none
  empty (more : Location) : more ≠ [] → made.node? (base ++ more) = none

section Making

variable {disk made after : Disk} {path : Path} {base : Location}

theorem Fresh.ne_root (h : Fresh disk made path base) : base ≠ [] := by
  intro he
  subst he
  cases h.free

/-- A fresh directory is named by its path whatever is put below it. -/
theorem Fresh.names_after (h : Fresh disk made path base) (hsame : SameAbove base made after) :
    Names after path base := by
  refine h.names.retain ?_ hsame.1.1
  intro l node hnode
  by_cases hl : base <+: l
  · obtain ⟨more, rfl⟩ := hl
    by_cases hmore : more = []
    · rw [hmore, List.append_nil] at hnode ⊢
      exact ⟨node, hsame.2.trans hnode, .same node⟩
    · rw [h.empty more hmore] at hnode
      cases hnode
  · exact ⟨node, (hsame.1.2 l hl).trans hnode, .same node⟩

theorem makeDirectory_fresh (htree : disk.IsTree) (h : disk.makeDirectory path = .ok made) :
    ∃ base, Fresh disk made path base := by
  have hextends := makeDirectory_extends h
  obtain ⟨base, hfree, rfl⟩ := makeDirectory_ok_iff.mp h
  obtain ⟨haccepted, hlast, hleads⟩ := free_leads hfree
  obtain ⟨hne, hnone⟩ := free_spec hfree
  have hdirectory := node?_put_self disk .directory hne
  refine ⟨base, ⟨haccepted, fun final => ?_, hdirectory, hlast⟩, hnone, fun more hmore => ?_⟩
  · have hfinal : Leads disk final linkLimit (origin path.octets disk.workingDirectory)
        (runs path.octets) (.vacant base) := by
      cases final with
      | false => exact hleads
      | true => exact hleads.vacant_following
    have hthere : ∃ node, (disk.put base .directory).node? base = some node ∧ node.Stays :=
      ⟨.directory, hdirectory, fun _ => Node.noConfusion⟩
    exact hfinal.retain hextends.retains (Or.inr ⟨rfl, hthere⟩)
  · rw [node?_put_of_ne disk .directory (by simpa using hmore)]
    exact htree.vacant_below hnone more

theorem makeDirectory_tree (htree : disk.IsTree) (h : disk.makeDirectory path = .ok made) :
    made.IsTree := by
  have hextends := makeDirectory_extends h
  obtain ⟨base, hfree, rfl⟩ := makeDirectory_ok_iff.mp h
  obtain ⟨_, _, hleads⟩ := free_leads hfree
  obtain ⟨_, above, last, rfl, habove⟩ := hleads.vacant_spec
  intro l name node hnode
  by_cases hbase : l ++ [name] = above ++ [last]
  · obtain ⟨rfl, _⟩ := List.append_inj' hbase rfl
    exact habove.retain hextends.retains
  · rw [node?_put_of_ne disk .directory hbase] at hnode
    exact (htree l name node hnode).retain hextends.retains

theorem Attempt.tree {result : Except IoFault Unit} (h : Attempt disk path result made)
    (htree : disk.IsTree) : made.IsTree := by
  cases h with
  | made hmake => exact makeDirectory_tree htree hmake
  | there => exact htree
  | refused => exact htree

theorem Makes.tree {fuel : Nat} {result : Except IoFault Unit}
    (h : Makes disk fuel path result made) (htree : disk.IsTree) : made.IsTree := by
  induction h with
  | exhausted => exact htree
  | empty => exact htree
  | alone _ _ hlast => exact hlast.tree htree
  | rootless => exact htree
  | stopped _ _ _ _ ih => exact ih
  | after _ _ _ _ hlast ih => exact hlast.tree ih

theorem makeDirectories_tree (htree : disk.IsTree) (path : Path) :
    (disk.makeDirectories path).2.IsTree := (makes disk path).tree htree

/-- A directory that is there needs not to be made. -/
theorem Makes.of_isDirectory {fuel : Nat} {result : Except IoFault Unit}
    (h : Makes disk (fuel + 1) path result made)
    (hdir : path.octets = [] ∨ disk.isDirectory path = true) : result = .ok () ∧ made = disk := by
  have hthere : path.octets ≠ [] → disk.makeDirectory path = .error .alreadyThere := fun hne =>
    makeDirectory_of_isDirectory (hdir.resolve_left hne)
  have hfound : path.octets ≠ [] → disk.makeDirectory path ≠ .error .noEntry := fun hne => by
    simp [hthere hne]
  cases h with
  | empty => exact ⟨rfl, rfl⟩
  | alone hne _ hlast =>
    cases hlast with
    | made hmade =>
      rw [hthere hne] at hmade
      cases hmade
    | there => exact ⟨rfl, rfl⟩
    | refused _ hnot =>
      rw [hdir.resolve_left hne] at hnot
      cases hnot
  | rootless hne hnone => exact absurd hnone (hfound hne)
  | stopped hne hnone => exact absurd hnone (hfound hne)
  | after hne hnone => exact absurd hnone (hfound hne)

theorem Attempt.ok (h : Attempt disk path (.ok ()) made) (htree : disk.IsTree) :
    made.isDirectory path = true := by
  cases h with
  | made hmake =>
    obtain ⟨base, hfresh⟩ := makeDirectory_fresh htree hmake
    exact isDirectory_iff.mpr ⟨base, .directory, hfresh.names.locate, rfl⟩
  | there _ hdir => exact hdir

theorem Makes.ok {fuel : Nat} (h : Makes disk fuel path (.ok ()) made) (htree : disk.IsTree) :
    path.octets = [] ∨ made.isDirectory path = true := by
  cases h with
  | empty hempty => exact Or.inl hempty
  | alone _ _ hlast => exact Or.inr (hlast.ok htree)
  | after _ _ _ hup hlast => exact Or.inr (hlast.ok (hup.tree htree))

/-- A directory that is not there is made as a fresh one, or nothing changes. -/
theorem Attempt.of_absent {result : Except IoFault Unit} (h : Attempt disk path result made)
    (htree : disk.IsTree) (habsent : disk.isDirectory path = false) :
    (∃ base, result = .ok () ∧ Fresh disk made path base) ∨
      ∃ fault, result = .error fault ∧ made = disk := by
  cases h with
  | made hmake =>
    obtain ⟨base, hfresh⟩ := makeDirectory_fresh htree hmake
    exact Or.inl ⟨base, rfl, hfresh⟩
  | there _ hdir =>
    rw [habsent] at hdir
    cases hdir
  | refused => exact Or.inr ⟨_, rfl, rfl⟩

/-- A directory that is not there, but the one above it is, is made as a fresh one or not at all. -/
theorem makeDirectories_cases (htree : disk.IsTree) (hne : path.octets ≠ [])
    (hparent : ∀ parent, path.parent? = some parent →
      parent.octets = [] ∨ disk.isDirectory parent = true)
    (habsent : disk.isDirectory path = false) :
    (∃ made base, disk.makeDirectories path = (.ok (), made) ∧ Fresh disk made path base) ∨
      ∃ fault, disk.makeDirectories path = (.error fault, disk) := by
  obtain ⟨fuel, hfuel⟩ : ∃ fuel, path.octets.length = fuel + 1 :=
    Nat.exists_eq_succ_of_ne_zero (by simpa using hne)
  have hmakes := makes disk path
  rw [hfuel] at hmakes
  generalize disk.makeDirectories path = after at hmakes ⊢
  obtain ⟨result, made⟩ := after
  have hlast : ∀ {middle}, middle = disk → Attempt middle path result made →
      (∃ made' base, (result, made) = (.ok (), made') ∧ Fresh disk made' path base) ∨
        ∃ fault, (result, made) = (.error fault, disk) := by
    intro middle he hlast
    subst he
    rcases hlast.of_absent htree habsent with ⟨base, rfl, hfresh⟩ | ⟨fault, rfl, rfl⟩
    · exact Or.inl ⟨made, base, rfl, hfresh⟩
    · exact Or.inr ⟨fault, rfl⟩
  cases hmakes with
  | empty hempty => exact absurd hempty hne
  | alone _ _ hattempt => exact hlast rfl hattempt
  | rootless => exact Or.inr ⟨_, rfl⟩
  | stopped _ _ hp hup => cases (hup.of_isDirectory (hparent _ hp)).1
  | after _ _ hp hup hattempt => exact hlast (hup.of_isDirectory (hparent _ hp)).2 hattempt

/-! ## Directories above a path -/

/-- Making the directories above a path does not bring it into being. -/
def Clear (disk : Disk) (path : Path) : Prop :=
  disk.pathExists path = false → (disk.makeDirectories path.parentOrSelf).2.pathExists path = false

/-- A path that never leads up. -/
def NeverUp (path : Path) : Prop := dotDotName ∉ runs path.octets

/-- From an empty directory names lead nowhere, unless they lead up or are dots. -/
theorem not_leads_of_empty {base l : Location}
    (hempty : ∀ more, more ≠ [] → disk.node? (base ++ more) = none) {links : Nat}
    {path : List Bytes} (hup : dotDotName ∉ path) (hname : ∃ name ∈ path, name ≠ dotName) :
    ¬ Leads disk true links base path (.found l) := by
  have hnone : ∀ {name node}, disk.node? (base ++ [name]) ≠ some node := by
    intro name node hnode
    rw [hempty [name] (List.cons_ne_nil _ _)] at hnode
    cases hnode
  induction path with
  | nil => simp at hname
  | cons name rest ih =>
    intro hleads
    cases hleads with
    | dot _ hrest =>
      refine ih (fun hmem => hup (List.mem_cons_of_mem _ hmem)) ?_ hrest
      simpa using hname
    | up => exact hup List.mem_cons_self
    | stop _ _ hfinal => cases hfinal
    | follow _ _ hlink => exact hnone hlink
    | through _ _ hnode => exact hnone hnode

/-- A path that never leads up leads nowhere below a fresh directory. -/
theorem Fresh.vacant_child {parent : Path} {base : Location} (h : Fresh disk made parent base)
    (hparent : path.parent? = some parent) (hup : NeverUp path) : made.pathExists path = false := by
  refine pathExists_eq_false ?_
  intro ⟨l, node⟩ hloc
  obtain ⟨_, hleads⟩ := resolve_ok_iff.mp (locate_ok_iff.mp hloc).1
  obtain ⟨hpre, more, hmore, hruns, hname⟩ := Path.parent?_spec hparent
  have hne := (refused?_eq_none_iff.mp h.names.accepted).2
  obtain ⟨tail, htail, htailDot⟩ := names_eq path.octets
  rw [htail, hruns, List.append_assoc, ← origin_of_front _ hpre hne] at hleads
  obtain ⟨_, middle, _, hfront, _, hback⟩ := hleads.split (by simp [hmore])
  cases (h.names.leads true).unique hfront
  refine not_leads_of_empty h.empty ?_ ?_ hback
  · intro hmem
    rcases List.mem_append.mp hmem with hin | hin
    · exact hup (by rw [hruns]; exact List.mem_append_right _ hin)
    · rcases htailDot with rfl | rfl
      · cases hin
      · exact absurd (List.mem_singleton.mp hin) (by decide)
  · obtain ⟨name, hin, hdot⟩ := hname hne
    exact ⟨name, List.mem_append_left _ hin, hdot⟩

theorem NeverUp.parent {parent : Path} (h : NeverUp path) (hparent : path.parent? = some parent) :
    NeverUp parent := by
  obtain ⟨_, more, _, hruns, _⟩ := Path.parent?_spec hparent
  exact fun hmem => h (by rw [hruns]; exact List.mem_append_left _ hmem)

theorem not_isDirectory_of_absent (h : disk.pathExists path = false) :
    ¬ disk.isDirectory path = true := by
  intro hdir
  obtain ⟨l, node, hloc, _⟩ := isDirectory_iff.mp hdir
  rw [pathExists, hloc] at h
  cases h

/-- A directory whose path never leads up was there, or it has been made as a fresh one. -/
theorem Makes.fresh {fuel : Nat} (h : Makes disk fuel path (.ok ()) made) (htree : disk.IsTree)
    (hup : NeverUp path) : made = disk ∨ ∃ base, Fresh disk made path base := by
  generalize hresult : Except.ok () = result at h
  induction h with
  | exhausted => cases hresult
  | empty => exact Or.inl rfl
  | alone _ _ hlast =>
    cases hlast with
    | made hmake => exact Or.inr (makeDirectory_fresh htree hmake)
    | there => exact Or.inl rfl
    | refused => cases hresult
  | rootless => cases hresult
  | stopped => cases hresult
  | after _ _ hparent habove hlast ih =>
    cases hlast with
    | made hmake =>
      obtain ⟨base, hfresh⟩ := makeDirectory_fresh (habove.tree htree) hmake
      exact Or.inr ⟨base, hfresh.names, habove.extends.free hfresh.free, hfresh.empty⟩
    | there _ hdir =>
      -- It would be below a directory that has just been made.
      refine Or.inl ((ih (hup.parent hparent) rfl).resolve_right ?_)
      intro ⟨base, hfresh⟩
      exact not_isDirectory_of_absent (hfresh.vacant_child hparent hup) hdir
    | refused => cases hresult

/-- What leads nowhere and has nothing above it is not made. -/
theorem Makes.of_parent?_none {fuel : Nat} {result : Except IoFault Unit}
    (h : Makes disk fuel path result made) (hnone : path.parent? = none) : made = disk := by
  cases h with
  | exhausted => rfl
  | empty => rfl
  | alone _ _ hlast =>
    cases hlast with
    | made hmake =>
      obtain ⟨base, hfree, _⟩ := makeDirectory_ok_iff.mp hmake
      obtain ⟨_, ⟨name, hname, hdot, _⟩, _⟩ := free_leads hfree
      exact absurd (Path.eq_dotName_of_parent?_none hnone (List.mem_of_getLast? hname)) hdot
    | there => rfl
    | refused => rfl
  | rootless => rfl
  | stopped _ _ hparent =>
    rw [hnone] at hparent
    cases hparent
  | after _ _ hparent =>
    rw [hnone] at hparent
    cases hparent

/-- A path that never leads up is not brought into being by the directories above it. -/
theorem clear_of_neverUp (htree : disk.IsTree) (hup : NeverUp path) : Clear disk path := by
  intro habsent
  cases hparent : path.parent? with
  | none =>
    rw [Path.parentOrSelf, hparent, Option.getD_none, (makes disk path).of_parent?_none hparent]
    exact habsent
  | some parent =>
    rw [Path.parentOrSelf, hparent, Option.getD_some]
    rcases hmake : disk.makeDirectories parent with ⟨fault | done, middle⟩
    · exact pathExists_eq_false (not_located_of_error hparent hmake)
    · rcases (makes_of_eq hmake).fresh htree (hup.parent hparent) with rfl | ⟨base, hfresh⟩
      · exact habsent
      · exact hfresh.vacant_child hparent hup

/-- A place for a clone comes to be made as a fresh directory, or its path leads nowhere still. -/
theorem makePlace_cases (htree : disk.IsTree) (hne : path.octets ≠ [])
    (hclear : (disk.makeDirectories path.parentOrSelf).2.pathExists path = false) :
    (∃ made base, disk.makePlace path = (.ok (), made) ∧ Fresh disk made path base) ∨
      ∃ fault made, disk.makePlace path = (.error fault, made) ∧ made.pathExists path = false := by
  have hextends := makeDirectories_extends disk path.parentOrSelf
  have hgrown := makeDirectories_tree htree path.parentOrSelf
  unfold makePlace
  rcases hmake : disk.makeDirectories path.parentOrSelf with ⟨fault | done, middle⟩
  · rw [hmake] at hclear
    exact Or.inr ⟨fault, middle, rfl, hclear⟩
  rw [hmake] at hclear hextends hgrown
  dsimp only at hclear hextends hgrown ⊢
  have hparent : ∀ parent, path.parent? = some parent →
      parent.octets = [] ∨ middle.isDirectory parent = true := by
    intro parent hp
    rw [Path.parentOrSelf, hp] at hmake
    exact (makes_of_eq hmake).ok htree
  have hnot : middle.isDirectory path = false := by
    simpa using not_isDirectory_of_absent hclear
  rcases makeDirectories_cases hgrown hne hparent hnot with ⟨made, base, hok, hfresh⟩ |
    ⟨fault, herror⟩
  · exact Or.inl ⟨made, base, hok, hfresh.names, hextends.free hfresh.free, hfresh.empty⟩
  · exact Or.inr ⟨fault, middle, herror, hclear⟩

end Making

end Disk

end ToolBootstrap
