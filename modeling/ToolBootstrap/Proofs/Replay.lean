import ToolBootstrap.Proofs.Installation

/- Installing the same tools again.

   A second runner `Repeats` a first one on invocations if it answers each of them alike, but for
   plugins: where the first runner added one, the second may say that it was added already.
   `Alongside` says that an action under the second runner then hands over the commands that the
   first run handed over, and gives what the first run gave. It is closed under sequencing, and
   holds of the installation of a tool, where the answer that changed is the one that an
   installation tolerates. -/

namespace ToolBootstrap

/-- An invocation by which the manager adds a plugin. -/
def Invocation.AddsPlugin (call : Invocation) : Prop :=
  call.program = managerProgram ∧ ∃ name, call.args = ["plugin", "add", name]

/-- An answer stands for another one on a later occasion: it is the same, or the plugin that was
added then has been added already. -/
inductive Repeated (call : Invocation) : Answer → Answer → Prop where
  | same (answer : Answer) : Repeated call answer answer
  | added {output : Output} {line : String} {code : Option Int} {message : String} :
      call.AddsPlugin → "already added".toList <:+: message.toList →
      Repeated call (.ok output) (.error (.commandFailed line code message))

theorem Repeated.of_eq {call : Invocation} {answer answer' : Answer} (h : answer = answer') :
    Repeated call answer answer' := by
  rw [h]
  exact .same answer'

namespace Runner

variable {σ τ : Type}

/-- A second runner answers invocations as a first one does, up to plugins that are there. -/
def Repeats (first : Runner σ) (second : Runner τ) :
    List Invocation → Disk × σ → Disk × τ → Prop
  | [], _, _ => True
  | call :: rest, a, b => Repeated call (first call a).1 (second call b).1 ∧
      Repeats first second rest (first call a).2 (second call b).2

theorem repeats_append {first : Runner σ} {second : Runner τ} {front back : List Invocation}
    {a : Disk × σ} {b : Disk × τ} :
    first.Repeats second (front ++ back) a b ↔ first.Repeats second front a b ∧
      first.Repeats second back (first.serve front a).2 (second.serve front b).2 := by
  induction front generalizing a b with
  | nil => simp [Repeats]
  | cons call rest ih =>
    rw [List.cons_append, Repeats, Repeats, ih, and_assoc]
    rfl

end Runner

namespace Bootstrap

open Session

variable {σ τ α β : Type} {first : Runner σ} {second : Runner τ}

/-- Under a second runner that repeats the first one, an action hands over what it handed over under
the first, and gives the same. -/
def Alongside (first : Runner σ) (second : Runner τ) (x : Act σ α) (y : Act τ α) : Prop :=
  ∀ s t, ∃ issued, (x.run s).2.calls = s.calls ++ issued ∧
    (x.run s).2.state = (first.serve issued s.state).2 ∧
    (first.Repeats second issued s.state t.state →
      (y.run t).1 = (x.run s).1 ∧ (y.run t).2.calls = t.calls ++ issued ∧
        (y.run t).2.state = (second.serve issued t.state).2)

namespace Alongside

theorem pure (a : α) : Alongside first second (pure a) (pure a) :=
  fun s t => ⟨[], (List.append_nil s.calls).symm, rfl, fun _ =>
    ⟨rfl, (List.append_nil t.calls).symm, rfl⟩⟩

theorem say (record : Console.Record) : Alongside first second (say record) (say record) :=
  fun s t => ⟨[], (List.append_nil s.calls).symm, rfl, fun _ =>
    ⟨rfl, (List.append_nil t.calls).symm, rfl⟩⟩

theorem bind {x : Act σ α} {y : Act τ α} {f : α → Act σ β} {g : α → Act τ β}
    (hx : Alongside first second x y) (hf : ∀ a, Alongside first second (f a) (g a)) :
    Alongside first second (x >>= f) (y >>= g) := by
  intro s t
  obtain ⟨front, hcalls, hstate, hrep⟩ := hx s t
  obtain ⟨back, hcalls', hstate', hrep'⟩ := hf (x.run s).1 (x.run s).2 (y.run t).2
  rw [run_bind, run_bind]
  refine ⟨front ++ back, ?_, ?_, fun h => ?_⟩
  · rw [hcalls', hcalls, List.append_assoc]
  · rw [hstate', hstate, Runner.serve_append]
  · obtain ⟨hfront, hback⟩ := Runner.repeats_append.mp h
    obtain ⟨hresult, htcalls, htstate⟩ := hrep hfront
    rw [← hstate, ← htstate] at hback
    obtain ⟨hresult', htcalls', htstate'⟩ := hrep' hback
    rw [hresult]
    refine ⟨hresult', ?_, ?_⟩
    · rw [htcalls', htcalls, List.append_assoc]
    · rw [htstate', htstate, Runner.serve_append]

end Alongside

/-! ## Following commands -/

/-- Commands that may be followed again: only the first step of a plan adds a plugin, and it is not
the last one. -/
def Followable (commands : List (InstallStep × Invocation)) : Prop :=
  (∀ command ∈ commands, command.2.AddsPlugin → command.1 = .pluginAdd) ∧
    ∀ command, commands.getLast? = some command → command.1 ≠ .pluginAdd

theorem Followable.tail {command : InstallStep × Invocation}
    {rest : List (InstallStep × Invocation)} (h : Followable (command :: rest)) :
    Followable rest := by
  refine ⟨fun c hc => h.1 c (List.mem_cons_of_mem _ hc), fun c hc => h.2 c ?_⟩
  cases rest with
  | nil => cases hc
  | cons next rest => rw [List.getLast?_cons_cons, hc]

theorem plan_followable (path : SearchPath) (tool : Tool) : Followable (plan path tool) := by
  constructor
  · intro command hc
    simp only [plan, List.mem_cons, List.not_mem_nil, or_false] at hc
    rcases hc with rfl | rfl | rfl | rfl <;> simp [Invocation.AddsPlugin]
  · intro command hc
    cases hc
    simp

/-- Where both runners let an installation go on, it goes on alongside. -/
theorem alongside_of_goes_on {step : InstallStep} {call : Invocation}
    {rest : List (InstallStep × Invocation)} {last last' out out' : Output} {s : Session σ}
    {t : Session τ}
    (hs : (follow first ((step, call) :: rest) last).run s =
      (follow first rest out).run (asked first call s))
    (ht : Repeated call (first call s.state).1 (second call t.state).1 →
      (follow second ((step, call) :: rest) last').run t =
        (follow second rest out').run (asked second call t))
    (hrest : Alongside first second (follow first rest out) (follow second rest out')) :
    ∃ issued, ((follow first ((step, call) :: rest) last).run s).2.calls = s.calls ++ issued ∧
      ((follow first ((step, call) :: rest) last).run s).2.state =
        (first.serve issued s.state).2 ∧
      (first.Repeats second issued s.state t.state →
        ((follow second ((step, call) :: rest) last').run t).1 =
            ((follow first ((step, call) :: rest) last).run s).1 ∧
          ((follow second ((step, call) :: rest) last').run t).2.calls = t.calls ++ issued ∧
          ((follow second ((step, call) :: rest) last').run t).2.state =
            (second.serve issued t.state).2) := by
  obtain ⟨issued, hcalls, hstate, hrep⟩ := hrest (asked first call s) (asked second call t)
  rw [hs]
  refine ⟨call :: issued, ?_, hstate, ?_⟩
  · rw [hcalls, asked_calls, List.append_assoc, List.singleton_append]
  · intro ⟨hcall, hothers⟩
    obtain ⟨hresult, htcalls, htstate⟩ := hrep hothers
    rw [ht hcall]
    refine ⟨hresult, ?_, htstate⟩
    rw [htcalls, asked_calls, List.append_assoc, List.singleton_append]

/-- Where the first runner succeeds, the second one writes the same, or tells that the plugin of a
first step is there. It goes on in both cases. -/
theorem goes_on_of_repeated {step : InstallStep} {call : Invocation}
    {rest : List (InstallStep × Invocation)} (hc : Followable ((step, call) :: rest))
    (last : Output) {output : Output} {t : Session τ}
    (hrep : Repeated call (.ok output) (second call t.state).1) :
    ∃ out, (rest ≠ [] ∨ out = output) ∧ (follow second ((step, call) :: rest) last).run t =
      (follow second rest out).run (asked second call t) := by
  generalize hb : (second call t.state).1 = answer at hrep
  cases hrep with
  | same => exact ⟨output, Or.inr rfl, follow_ok_run rest last hb⟩
  | @added _ line code message hadds hmessage =>
    have hstep : step = .pluginAdd := hc.1 _ List.mem_cons_self hadds
    refine ⟨Output.nothing, Or.inl ?_, follow_tolerated_run rest last hb ?_⟩
    · intro he
      subst he
      exact hc.2 _ rfl hstep
    · exact (tolerates_iff step _).mpr ⟨hstep, Or.inr ⟨line, code, message, rfl, hmessage⟩⟩

theorem repeated_error {call : Invocation} {failure : Failure}
    {answer : Except Failure Output} (h : Repeated call (.error failure) answer) :
    answer = .error failure := by
  cases h
  rfl

/-- Commands are followed alongside. What was written before the first of them does not matter. -/
theorem follow_alongside {commands : List (InstallStep × Invocation)} (hc : Followable commands)
    {last last' : Output} (hlast : commands ≠ [] ∨ last' = last) :
    Alongside first second (follow first commands last) (follow second commands last') := by
  induction commands generalizing last last' with
  | nil =>
    obtain rfl := hlast.resolve_left (fun h => h rfl)
    exact Alongside.pure (Except.ok last')
  | cons command rest ih =>
    obtain ⟨step, call⟩ := command
    intro s t
    cases ha : (first call s.state).1 with
    | ok output =>
      by_cases hrep : Repeated call (.ok output) (second call t.state).1
      · obtain ⟨out', hout, ht⟩ := goes_on_of_repeated hc last' hrep
        exact alongside_of_goes_on (follow_ok_run rest last ha) (fun _ => ht) (ih hc.tail hout)
      · exact alongside_of_goes_on (follow_ok_run rest last ha) (fun h => absurd (ha ▸ h) hrep)
          (ih hc.tail (Or.inr rfl))
    | error failure =>
      have hsame : Repeated call (first call s.state).1 (second call t.state).1 →
          (second call t.state).1 = .error failure := fun h => repeated_error (ha ▸ h)
      cases htol : tolerates step failure with
      | true =>
        exact alongside_of_goes_on (follow_tolerated_run rest last ha htol)
          (fun h => follow_tolerated_run rest last' (hsame h) htol) (ih hc.tail (Or.inr rfl))
      | false =>
        rw [follow_error_run rest last ha htol]
        refine ⟨[call], rfl, rfl, fun h => ?_⟩
        rw [follow_error_run rest last' (hsame h.1) htol]
        exact ⟨rfl, rfl, rfl⟩

/-! ## Tools -/

theorem installTool_alongside (path : SearchPath) (tool : Tool) :
    Alongside first second (installTool first path tool) (installTool second path tool) := by
  refine .bind (.say _) fun _ => .bind ?_ fun result => ?_
  · exact follow_alongside (plan_followable path tool) (Or.inr rfl)
  · cases result with
    | error broken => exact .bind (.say _) fun _ => .pure _
    | ok output =>
      dsimp only
      split
      · exact .bind (.say _) fun _ => .bind (.say _) fun _ => .pure _
      · exact .bind (.say _) fun _ => .pure _

theorem installTools_alongside (first : Runner σ) (second : Runner τ) (path : SearchPath)
    (tools : List Tool) :
    Alongside first second (installTools first path tools) (installTools second path tools) := by
  induction tools with
  | nil => exact .pure []
  | cons tool rest ih =>
    exact .bind (installTool_alongside path tool) fun result => .bind ih fun results => .pure _

end Bootstrap

end ToolBootstrap
