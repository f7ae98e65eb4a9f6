import Mathlib.Logic.Relation
import ToolBootstrap.Proofs.Parents

/- Spellings of a path.

   A path is shortened by dropping a slash behind a slash, a `.` between slashes, or a slash at the
   end. Two paths have the same components exactly if such steps, there and back, lead from one to
   the other (`same_iff_respelled`): by each of them components stay as they are, and by them every
   path comes to the one spelling that its components have. A `..` is a name like others, and is
   never dropped (`not_same_of_back`). -/

namespace ToolBootstrap.Path

/-- One step to a shorter spelling. -/
inductive Shortens : Bytes → Bytes → Prop
  | repeated (x y : Bytes) : Shortens (x ++ slash :: slash :: y) (x ++ slash :: y)
  | inner (x y : Bytes) : Shortens (x ++ slash :: (dotName ++ slash :: y)) (x ++ slash :: y)
  | final (x : Bytes) (hne : x ≠ []) : Shortens (x ++ [slash]) x

/-- Spellings that steps to shorter ones, there and back, lead between. -/
def Respelled : Bytes → Bytes → Prop := Relation.EqvGen Shortens

/-! ## Names -/

/-- The parts that name something, `..` among them. -/
def kept (parts : List Bytes) : List Bytes := (parts.filter (· ≠ [])).filter (· ≠ dotName)

theorem kept_cons_of_idle {part : Bytes} (h : part = [] ∨ part = dotName) (rest : List Bytes) :
    kept (part :: rest) = kept rest := by
  rcases h with rfl | rfl <;> rfl

theorem kept_cons {part : Bytes} (h : ¬ (part = [] ∨ part = dotName)) (rest : List Bytes) :
    kept (part :: rest) = part :: kept rest := by
  obtain ⟨hne, hdot⟩ := not_or.mp h
  simp [kept, hne, hdot]

theorem kept_append (parts parts' : List Bytes) :
    kept (parts ++ parts') = kept parts ++ kept parts' := by
  simp only [kept, List.filter_append]

/-- The names that a path goes through. -/
def steps (octets : Bytes) : List Bytes := kept (octets.splitOn slash)

theorem steps_append_slash (x y : Bytes) : steps (x ++ slash :: y) = steps x ++ steps y := by
  rw [steps, List.splitOn_append_cons_self, kept_append]
  rfl

theorem steps_of_name {name : Bytes} (h : ¬ (name = [] ∨ name = dotName)) (hslash : slash ∉ name) :
    steps name = [name] := by
  rw [steps, List.splitOn_eq_singleton hslash, kept_cons h]
  rfl

/-! ## Components -/

def componentOf (name : Bytes) : Component := if name = dotDotName then .parent else .name name

theorem componentOf_injective : Function.Injective componentOf := by
  intro name name' h
  unfold componentOf at h
  split_ifs at h with hname hname'
  · rw [hname, hname']
  · exact Component.name.inj h

theorem filterMap_inner? (parts : List Bytes) :
    parts.filterMap inner? = (kept parts).map componentOf := by
  induction parts with
  | nil => rfl
  | cons part rest ih =>
    rw [List.filterMap_cons, inner?]
    by_cases hidle : part = [] ∨ part = dotName
    · rw [if_pos hidle, kept_cons_of_idle hidle]
      exact ih
    · rw [if_neg hidle, kept_cons hidle, List.map_cons, ← ih, componentOf]
      split_ifs <;> rfl

/-- A path starts at the root, at a leading `.`, or with a name, unless it is empty. -/
theorem split_cases (p : Path) :
    p.split.1 = some .root ∨ p.split.1 = some .here ∨
      p.split.1 = none ∧ ∃ first rest, p.split.2 = first :: rest ∧ first ≠ dotName ∧
        (first = [] → rest = []) := by
  obtain ⟨first, rest, hs⟩ := List.exists_cons_of_ne_nil (List.splitOn_ne_nil slash p.octets)
  unfold split
  rw [hs]
  dsimp only
  split
  · exact Or.inl rfl
  rename_i habs
  split
  · exact Or.inr (Or.inl rfl)
  rename_i hdot
  refine Or.inr (Or.inr ⟨rfl, first, rest, rfl, hdot, ?_⟩)
  intro he
  subst he
  -- A slash behind nothing would be the root.
  by_contra hrest
  obtain ⟨next, others, rfl⟩ := List.exists_cons_of_ne_nil hrest
  have hjoin : [slash].intercalate (p.octets.splitOn slash) = p.octets :=
    List.intercalate_splitOn slash
  rw [hs] at hjoin
  apply habs
  rw [isAbsolute, ← hjoin]
  rfl

theorem steps_eq (p : Path) : steps p.octets = kept p.split.2 := by
  obtain ⟨hoctets, hslash⟩ := p.split_spec
  have hruns := runs_ofRuns p.split.1 hslash
  rw [← hoctets] at hruns
  have hlead : (leadRuns p.split.1).filter (· ≠ dotName) = [] := by
    rcases p.split_cases with h | h | ⟨h, _⟩ <;> rw [h] <;> rfl
  calc steps p.octets
      = (Disk.runs p.octets).filter (· ≠ dotName) := rfl
    _ = kept p.split.2 := by rw [hruns, List.filter_append, hlead, List.nil_append]; rfl

/-- What a path is made of: its lead, and the names behind it. -/
theorem components_eq (p : Path) :
    p.components = p.split.1.toList ++ (steps p.octets).map componentOf := by
  rw [components, filterMap_inner?, steps_eq]

def isLead : Component → Bool
  | .root | .here => true
  | .parent | .name _ => false

theorem isLead_of_split (p : Path) : ∀ c ∈ p.split.1.toList, isLead c = true := by
  rcases p.split_cases with h | h | ⟨h, _⟩ <;> simp [h, isLead]

theorem stops_names (names : List Bytes) : Stops isLead (names.map componentOf) := by
  cases names with
  | nil => exact stops_nil
  | cons name rest =>
    rw [List.map_cons, stops_cons_iff, componentOf]
    split_ifs <;> rfl

theorem same_iff {p q : Path} :
    p.same q = true ↔ p.split.1 = q.split.1 ∧ steps p.octets = steps q.octets := by
  rw [same, beq_iff_eq, components_eq, components_eq]
  constructor
  · intro h
    obtain ⟨hlead, hnames⟩ := run_unique p.isLead_of_split (stops_names _) q.isLead_of_split
      (stops_names _) h
    exact ⟨by simpa using congrArg List.head? hlead,
      List.map_injective_iff.mpr componentOf_injective hnames⟩
  · intro ⟨hlead, hnames⟩
    rw [hlead, hnames]

/-! ## Steps keep components -/

theorem lead_append_slash (x y : Bytes) : (⟨x ++ slash :: y⟩ : Path).split.1 =
    if x = [] then some .root else (⟨x⟩ : Path).split.1 := by
  cases x with
  | nil =>
    rw [if_pos rfl, split, List.splitOn_append_cons_self]
    rfl
  | cons c rest =>
    -- Neither the first octet nor the first run is changed by what comes behind them.
    obtain ⟨first, others, hs⟩ :=
      List.exists_cons_of_ne_nil (List.splitOn_ne_nil slash (c :: rest))
    rw [if_neg (List.cons_ne_nil c rest), split, split, List.splitOn_append_cons_self, hs]
    show Prod.fst (if isAbsolute ⟨c :: rest⟩ then _ else _) = _
    dsimp only [List.cons_append]
    split_ifs <;> rfl

theorem Shortens.same {x y : Bytes} (h : Shortens x y) : (⟨x⟩ : Path).same ⟨y⟩ = true := by
  rw [same_iff]
  cases h with
  | repeated x y =>
    refine ⟨by rw [lead_append_slash, lead_append_slash], ?_⟩
    show steps (x ++ slash :: ([] ++ slash :: y)) = steps (x ++ slash :: y)
    rw [steps_append_slash, steps_append_slash, steps_append_slash]
    rfl
  | inner x y =>
    refine ⟨by rw [lead_append_slash, lead_append_slash], ?_⟩
    show steps (x ++ slash :: (dotName ++ slash :: y)) = steps (x ++ slash :: y)
    rw [steps_append_slash, steps_append_slash, steps_append_slash]
    rfl
  | final _ hne =>
    refine ⟨by rw [lead_append_slash, if_neg hne], ?_⟩
    show steps (y ++ slash :: []) = steps y
    rw [steps_append_slash]
    exact List.append_nil _

theorem Respelled.same {x y : Bytes} (h : Respelled x y) : (⟨x⟩ : Path).same ⟨y⟩ = true := by
  simp only [Path.same, beq_iff_eq]
  induction h with
  | rel x y hstep => simpa [Path.same] using hstep.same
  | refl x => rfl
  | symm x y _ ih => exact ih.symm
  | trans x y z _ _ first second => exact first.trans second

/-! ## Steps reach one spelling -/

/-- Parts below something, each behind a slash. -/
def below (parts : List Bytes) : Bytes := parts.flatMap (slash :: ·)

theorem intercalate_cons (first : Bytes) (rest : List Bytes) :
    [slash].intercalate (first :: rest) = first ++ below rest :=
  intercalate_cons_flatMap slash first rest

/-- A part that names nothing is dropped. -/
theorem respelled_cons_of_idle {x part : Bytes} (hx : x ≠ []) (h : part = [] ∨ part = dotName)
    (rest : List Bytes) : Respelled (x ++ below (part :: rest)) (x ++ below rest) := by
  cases rest with
  | nil =>
    have hfinal : Respelled (x ++ [slash]) x := .rel _ _ (.final x hx)
    rw [show below [] = [] from rfl, List.append_nil]
    rcases h with rfl | rfl
    · exact hfinal
    · -- A final `.` is an inner one of the path with one more slash.
      have hlonger : Respelled ((x ++ slash :: dotName) ++ [slash]) (x ++ slash :: dotName) :=
        .rel _ _ (.final _ (by simp))
      have hinner : Respelled ((x ++ slash :: dotName) ++ [slash]) (x ++ [slash]) := by
        rw [List.append_assoc]
        exact .rel _ _ (.inner x [])
      exact (hlonger.symm.trans _ _ _ hinner).trans _ _ _ hfinal
  | cons next others =>
    rcases h with rfl | rfl
    · exact .rel _ _ (.repeated x (next ++ below others))
    · exact .rel _ _ (.inner x (next ++ below others))

theorem respelled_below {x : Bytes} (hx : x ≠ []) (parts : List Bytes) :
    Respelled (x ++ below parts) (x ++ below (kept parts)) := by
  induction parts generalizing x with
  | nil => exact .refl _
  | cons part rest ih =>
    by_cases hidle : part = [] ∨ part = dotName
    · rw [kept_cons_of_idle hidle]
      exact .trans _ _ _ (respelled_cons_of_idle hx hidle rest) (ih hx)
    · have hcons : ∀ parts, x ++ below (part :: parts) = (x ++ slash :: part) ++ below parts :=
        fun parts => (List.append_assoc x (slash :: part) (below parts)).symm
      rw [kept_cons hidle, hcons, hcons]
      exact ih (by simp)

theorem ofRuns_here (parts : List Bytes) :
    (ofRuns (some .here) parts).octets = dotName ++ below parts := by
  cases parts with
  | nil => rfl
  | cons part rest =>
    rw [ofRuns_here_cons, intercalate_cons]
    rfl

theorem ofRuns_none (first : Bytes) (rest : List Bytes) :
    (ofRuns none (first :: rest)).octets = first ++ below rest := intercalate_cons first rest

theorem respelled_root (parts : List Bytes) :
    Respelled (ofRuns (some .root) parts).octets ([slash] ++ below parts) := by
  cases parts with
  | nil => exact .refl _
  | cons part rest =>
    have hroot : (ofRuns (some .root) (part :: rest)).octets = slash :: (part ++ below rest) :=
      congrArg (slash :: ·) (intercalate_cons part rest)
    rw [hroot]
    exact .symm _ _ (.rel _ _ (.repeated [] (part ++ below rest)))

/-- Every path comes to the spelling of its lead and its names. -/
theorem respelled_spelling (p : Path) :
    Respelled p.octets (ofRuns p.split.1 (steps p.octets)).octets := by
  rw [steps_eq]
  refine p.split_spec.1 ▸ ?_
  rcases p.split_cases with h | h | ⟨h, first, rest, hrest, hdot, hempty⟩
  · -- Below the root parts are dropped while there is one slash more.
    rw [h]
    have hmore := respelled_root p.split.2
    have hdropped := respelled_below (x := [slash]) (by simp) p.split.2
    have hback := respelled_root (kept p.split.2)
    exact .trans _ _ _ (.trans _ _ _ hmore hdropped) (.symm _ _ hback)
  · rw [h, ofRuns_here, ofRuns_here]
    exact respelled_below (by decide) _
  · rw [h, hrest]
    by_cases hfirst : first = []
    · -- The empty path.
      rw [hfirst, hempty hfirst]
      exact .refl _
    · rw [kept_cons (by simp [hfirst, hdot]), ofRuns_none, ofRuns_none]
      exact respelled_below hfirst rest

theorem same_iff_respelled {p q : Path} : p.same q = true ↔ Respelled p.octets q.octets := by
  refine ⟨fun h => ?_, fun h => h.same⟩
  obtain ⟨hlead, hnames⟩ := same_iff.mp h
  have hspelling := respelled_spelling p
  rw [hlead, hnames] at hspelling
  exact .trans _ _ _ hspelling (.symm _ _ (respelled_spelling q))

theorem not_same_of_back (x y : Bytes) {name : Bytes} (h : ¬ (name = [] ∨ name = dotName))
    (hslash : slash ∉ name) :
    (⟨x ++ slash :: (name ++ slash :: (dotDotName ++ slash :: y))⟩ : Path).same ⟨x ++ slash :: y⟩ =
      false := by
  rw [← Bool.not_eq_true, same_iff]
  intro ⟨_, hnames⟩
  have hback : steps dotDotName = [dotDotName] := by decide
  have hlength := congrArg List.length hnames
  simp only [steps_append_slash, steps_of_name h hslash, hback, List.length_append,
    List.length_singleton] at hlength
  omega

end ToolBootstrap.Path
