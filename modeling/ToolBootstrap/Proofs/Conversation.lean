import ToolBootstrap.Session

/- The conversation of a run with its runner.

   `Runner.serve` hands invocations to a runner one after the other, and says what it answers and
   which state that leaves. A run is measured against it: the invocations of a session, served from
   the state in which its first command finds the disk, give the answers that the run went by and
   the state that the run leaves. -/

namespace ToolBootstrap

abbrev Answer := Except Failure Output

/-! ## Steps of a session -/

namespace Session

variable {σ α β : Type}

theorem run_bind (x : Act σ α) (f : α → Act σ β) (s : Session σ) :
    (x >>= f).run s = (f (x.run s).1).run (x.run s).2 := rfl

@[simp] theorem run_pure (a : α) (s : Session σ) : (pure a : Act σ α).run s = (a, s) := rfl

@[simp] theorem run_say (record : Console.Record) (s : Session σ) :
    (say record).run s = ((), { s with console := s.console ++ [.record record] }) := rfl

theorem run_onDisk (change : Disk → α × Disk) (s : Session σ) :
    (onDisk change).run s = ((change s.disk).1, { s with disk := (change s.disk).2 }) := rfl

theorem run_look (question : Disk → α) (s : Session σ) :
    (look question).run s = (question s.disk, s) := rfl

/-- What a runner may look at and change. -/
def state (s : Session σ) : Disk × σ := (s.disk, s.memory)

@[simp] theorem start_calls (disk : Disk) (memory : σ) : (start disk memory).calls = [] := rfl

def asked (runner : Runner σ) (call : Invocation) (s : Session σ) : Session σ :=
  { s with
    disk := (runner call s.state).2.1
    memory := (runner call s.state).2.2
    calls := s.calls ++ [call] }

@[simp] theorem asked_state (runner : Runner σ) (call : Invocation) (s : Session σ) :
    (asked runner call s).state = (runner call s.state).2 := rfl

@[simp] theorem asked_calls (runner : Runner σ) (call : Invocation) (s : Session σ) :
    (asked runner call s).calls = s.calls ++ [call] := rfl

theorem run_invoke (runner : Runner σ) (call : Invocation) (s : Session σ) :
    (invoke runner call).run s = ((runner call s.state).1, asked runner call s) := rfl

end Session

/-! ## Invocations in order -/

namespace Runner

variable {σ τ : Type}

/-- The answers of a runner to invocations in order, and the state it ends in. -/
def serve (runner : Runner σ) : List Invocation → Disk × σ → List Answer × (Disk × σ)
  | [], state => ([], state)
  | call :: rest, state =>
    ((runner call state).1 :: (serve runner rest (runner call state).2).1,
      (serve runner rest (runner call state).2).2)

@[simp] theorem serve_nil (runner : Runner σ) (state : Disk × σ) :
    runner.serve [] state = ([], state) := rfl

theorem serve_cons (runner : Runner σ) (call : Invocation) (rest : List Invocation)
    (state : Disk × σ) :
    runner.serve (call :: rest) state =
      ((runner call state).1 :: (runner.serve rest (runner call state).2).1,
        (runner.serve rest (runner call state).2).2) := rfl

theorem serve_append (runner : Runner σ) (a b : List Invocation) (state : Disk × σ) :
    runner.serve (a ++ b) state =
      ((runner.serve a state).1 ++ (runner.serve b (runner.serve a state).2).1,
        (runner.serve b (runner.serve a state).2).2) := by
  induction a generalizing state with
  | nil => rfl
  | cons call rest ih => rw [List.cons_append, serve_cons, serve_cons, ih]; rfl

end Runner

end ToolBootstrap
