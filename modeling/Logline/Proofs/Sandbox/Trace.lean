/-
Runs of sandboxed code, told moment by moment.

`Code.trace` runs code as `Code.run` does and writes down every moment of
the run: each request with the record as it was then, the requests of an
entered operation between the call and what follows it. It is the same run
(`Code.trace_run`), so what holds of the moments holds of the run:

- they are a path from the record at the start to the one at the end
  (`Code.trace_path`);
- every call among them, however deep, was answered by the one surface the
  run was started on (`Code.trace_answered`).

Both are inductions on the depth of calls and, for one depth, on the code.
The step from one depth to the next is the same in all three: what the
inner runs keep, a run that enters them keeps.
-/
import Logline.Proofs.Sandbox.Path
import Logline.Sandbox.Run

namespace Logline

/-- What a run works on, after an event. -/
def Progress.next (p : Progress) (e : Event) : Progress :=
  { p with record := e.apply p.record }

/-- Adds a moment in front of what follows it. -/
def Moment.first (e : Event) (p : Progress)
    (rest : Progress → List Moment × Ending × Progress) :
    List Moment × Ending × Progress :=
  let (ms, ended) := rest (p.next e)
  (⟨e, p.record⟩ :: ms, ended)

namespace Code

-- ============================================================ traces

/-- Runs code and writes its moments down, where `enter` does so for the
code of an operation. -/
def traceWith (enter : Code → Progress → List Moment × Ending × Progress)
    (scope : Scope) : Code → Progress → List Moment × Ending × Progress
  | done result, p => ([], .returned result, p)
  | fail cause, p => ([], .failed cause, p)
  | look next, p =>
    Moment.first .looked p (traceWith enter scope (next (scope.view p.record)))
  | set key value next, p =>
    Moment.first (.wrote key value) p (traceWith enter scope next)
  | del key next, p =>
    Moment.first (.removed key) p
      (traceWith enter scope (next (p.record.del key).1))
  | stop next, p => Moment.first .stopped p (traceWith enter scope next)
  | call operation args next, p =>
    match scope.surface.receiver? operation with
    | none =>
      Moment.first (.refused operation args) p
        (traceWith enter scope (next (.error (.capability operation))))
    | some receiver =>
      Moment.first (.entered operation args receiver) p fun p =>
        match enter (receiver.invoke operation args) p with
        | (inner, .returned result, p) =>
          let (later, ended) :=
            traceWith enter scope (next (.ok (result.getD .nil))) p
          (inner ++ later, ended)
        | (inner, .failed cause, p) =>
          let (later, ended) := traceWith enter scope (next (.error cause)) p
          (inner ++ later, ended)
        | (inner, .exhausted, p) => (inner, .exhausted, p)
  | note entry next, p =>
    traceWith enter scope next { p with journal := p.journal ++ [entry] }

/-- A run with calls nested no deeper than the given depth, with its
moments. -/
def trace : Nat → Scope → Code → Progress → List Moment × Ending × Progress
  | 0, scope => traceWith (fun _ p => ([], .exhausted, p)) scope
  | depth + 1, scope => traceWith (trace depth scope) scope

/-- The moments of a run. -/
def moments (depth : Nat) (scope : Scope) (code : Code) (p : Progress) :
    List Moment := (code.trace depth scope p).1

-- ================================================= the trace is the run

variable {scope : Scope}
  {traced : Code → Progress → List Moment × Ending × Progress}

/-- Traced runs end as runs do if those of the entered code do. -/
theorem traceWith_runWith {enter : Code → Progress → Ending × Progress}
    (h : ∀ code p, (traced code p).2 = enter code p) (code : Code) :
    ∀ p, (code.traceWith traced scope p).2 = code.runWith enter scope p := by
  induction code with
  | done result => intro p; rfl
  | fail cause => intro p; rfl
  | look next ih => intro p; exact ih _ _
  | set key value next ih => intro p; exact ih _
  | del key next ih => intro p; exact ih _ _
  | stop next ih => intro p; exact ih _
  | note entry next ih => intro p; exact ih _
  | call operation args next ih =>
      intro p
      unfold traceWith runWith
      cases hr : scope.surface.receiver? operation with
      | none => exact ih _ _
      | some receiver =>
          have hin : (traced (receiver.invoke operation args)
              (p.next (.entered operation args receiver))).2
              = enter (receiver.invoke operation args) p := h _ p
          simp only [Moment.first]
          rw [← hin]
          rcases traced (receiver.invoke operation args)
            (p.next (.entered operation args receiver)) with
            ⟨inner, ending, q⟩
          cases ending with
          | returned result => exact ih _ q
          | failed cause => exact ih _ q
          | exhausted => rfl

/-- The traced run is the run. -/
theorem trace_run (depth : Nat) (scope : Scope) (code : Code)
    (p : Progress) :
    (code.trace depth scope p).2 = code.run depth scope p := by
  induction depth generalizing code p with
  | zero => exact traceWith_runWith (fun _ _ => rfl) code p
  | succ depth ih => exact traceWith_runWith ih code p

-- ============================================== the moments are a path

/-- The moments of a traced run are a path if those of the entered code
are. -/
theorem traceWith_path
    (h : ∀ code p, Path p.record (traced code p).1 (traced code p).2.2.record)
    (code : Code) :
    ∀ p, Path p.record (code.traceWith traced scope p).1
      (code.traceWith traced scope p).2.2.record := by
  induction code with
  | done result => intro p; exact .here _
  | fail cause => intro p; exact .here _
  | look next ih => intro p; exact .step (ih _ (p.next .looked))
  | set key value next ih =>
      intro p
      exact .step (ih (p.next (.wrote key value)))
  | del key next ih => intro p; exact .step (ih _ (p.next (.removed key)))
  | stop next ih => intro p; exact .step (ih (p.next .stopped))
  | note entry next ih =>
      intro p
      exact ih { p with journal := p.journal ++ [entry] }
  | call operation args next ih =>
      intro p
      unfold traceWith
      cases hr : scope.surface.receiver? operation with
      | none => exact .step (ih _ (p.next (.refused operation args)))
      | some receiver =>
          have hin := h (receiver.invoke operation args)
            (p.next (.entered operation args receiver))
          refine .step ?_
          rcases he : traced (receiver.invoke operation args)
            (p.next (.entered operation args receiver)) with
            ⟨inner, ending, q⟩
          rw [he] at hin
          simp only [Moment.first, he]
          -- the entered code takes over the record, and hands it on unless
          -- it is exhausted
          cases ending with
          | returned result => exact hin.append (ih _ q)
          | failed cause => exact hin.append (ih _ q)
          | exhausted => exact hin

/-- The moments of a run lead from the record it was started with to the
record it ended with. -/
theorem trace_path (depth : Nat) (scope : Scope) (code : Code)
    (p : Progress) :
    Path p.record (code.moments depth scope p)
      (code.run depth scope p).2.record := by
  rw [← trace_run]
  unfold moments
  induction depth generalizing code p with
  | zero => exact traceWith_path (fun _ _ => .here _) code p
  | succ depth ih => exact traceWith_path ih code p

-- ================================================ one surface for all

/-- Calls are answered by the surface of the scope if those of the entered
code are. -/
theorem traceWith_answered
    (h : ∀ code p, ∀ m ∈ (traced code p).1, m.event.AnsweredBy scope.surface)
    (code : Code) :
    ∀ p, ∀ m ∈ (code.traceWith traced scope p).1,
      m.event.AnsweredBy scope.surface := by
  induction code with
  | done result => intro p m hm; cases hm
  | fail cause => intro p m hm; cases hm
  | look next ih =>
      intro p
      exact List.forall_mem_cons.mpr ⟨trivial, ih _ _⟩
  | set key value next ih =>
      intro p
      exact List.forall_mem_cons.mpr ⟨trivial, ih _⟩
  | del key next ih =>
      intro p
      exact List.forall_mem_cons.mpr ⟨trivial, ih _ _⟩
  | stop next ih =>
      intro p
      exact List.forall_mem_cons.mpr ⟨trivial, ih _⟩
  | note entry next ih => intro p; exact ih _
  | call operation args next ih =>
      intro p
      unfold traceWith
      cases hr : scope.surface.receiver? operation with
      | none => exact List.forall_mem_cons.mpr ⟨hr, ih _ _⟩
      | some receiver =>
          have hin := h (receiver.invoke operation args)
            (p.next (.entered operation args receiver))
          refine List.forall_mem_cons.mpr ⟨hr, ?_⟩
          rcases he : traced (receiver.invoke operation args)
            (p.next (.entered operation args receiver)) with
            ⟨inner, ending, q⟩
          rw [he] at hin
          cases ending with
          | returned result => exact List.forall_mem_append.mpr ⟨hin, ih _ q⟩
          | failed cause => exact List.forall_mem_append.mpr ⟨hin, ih _ q⟩
          | exhausted => exact hin

/-- Every call of a run, at whatever depth of calls, is answered by the
surface that the run was started on. -/
theorem trace_answered (depth : Nat) (scope : Scope) (code : Code)
    (p : Progress) :
    ∀ m ∈ code.moments depth scope p, m.event.AnsweredBy scope.surface := by
  unfold moments
  induction depth generalizing code p with
  | zero =>
      exact traceWith_answered (fun _ _ m hm => by cases hm) code p
  | succ depth ih => exact traceWith_answered ih code p

-- ============================================================= calls

/-- A call of a bound operation goes straight into the code of the receiver
that it is bound to. -/
theorem moments_call_bound (depth : Nat) (scope : Scope)
    {operation : String} {receiver : Receiver}
    (h : scope.surface.receiver? operation = some receiver)
    (args : List Value) (next : Except Error Value → Code) (p : Progress) :
    (⟨.entered operation args receiver, p.record⟩
        :: (receiver.invoke operation args).moments depth scope p)
      <+: (call operation args next).moments (depth + 1) scope p := by
  unfold moments
  rw [trace, traceWith]
  simp only [h, Moment.first]
  refine (List.prefix_cons_inj _).mpr ?_
  have hp : p.next (.entered operation args receiver) = p := rfl
  rw [hp]
  rcases (receiver.invoke operation args).trace depth scope p with
    ⟨inner, ending, q⟩
  cases ending with
  | returned result => exact List.prefix_append _ _
  | failed cause => exact List.prefix_append _ _
  | exhausted => exact List.prefix_rfl

/-- A call of any other operation is refused and goes on at once. -/
theorem moments_call_unbound (depth : Nat) (scope : Scope)
    {operation : String} (h : scope.surface.receiver? operation = none)
    (args : List Value) (next : Except Error Value → Code) (p : Progress) :
    (call operation args next).moments depth scope p
      = ⟨.refused operation args, p.record⟩
        :: (next (.error (.capability operation))).moments depth scope
          (p.next (.refused operation args)) := by
  unfold moments
  cases depth with
  | zero =>
      rw [trace, traceWith]
      simp only [h, Moment.first]
  | succ depth =>
      rw [trace, traceWith]
      simp only [h, Moment.first]

end Code

end Logline
