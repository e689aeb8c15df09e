/-
What happens to a record, moment by moment.

A run of sandboxed code leaves behind only the record it ended with. What
has to be said about runs speaks of every moment on the way: that a call
outside the surface touches nothing, that a stopped record never changes
again, that the first forbidden call is the one remembered. So a run is
also told as a list of moments, each an event and the record it happened
to.

# Paths

`Path r ms s` says that the moments `ms` lead from the record `r` to the
record `s` and that none is left out: each moment starts at the record the
one before it ended with. Paths know nothing of code. These facts hold of
every path, whatever made it:

- the violation at its end is the one at its start or else the first
  refused call on the way (`Path.violation`);
- a stopped record stays stopped and keeps its data (`Path.frozen`);
- the data at its end is the data at the moment that stopped the record
  (`Path.data_firstStop`), and that moment was a stop
  (`Path.firstStop_stops`).
-/
import Logline.Sandbox.Surface

namespace Logline

-- ========================================================== records

namespace Record

/-- A write forgets no violation and makes none. -/
@[simp] theorem violation_set (r : Record) (key : Key) (value : Value) :
    (r.set key value).violation = r.violation := by
  unfold set
  split <;> rfl

/-- A removal forgets no violation and makes none. -/
@[simp] theorem violation_del (r : Record) (key : Key) :
    (r.del key).2.violation = r.violation := by
  unfold del
  split <;> rfl

end Record

-- =========================================================== events

/-- What code asks of its scope. A call is told by how it was answered. -/
inductive Event where
  | looked
  | wrote (key : Key) (value : Value)
  | removed (key : Key)
  | stopped
  /-- The operation was bound, and the code of the receiver was entered. -/
  | entered (operation : String) (args : List Value) (receiver : Receiver)
  /-- The operation was not bound, and no code was entered. -/
  | refused (operation : String) (args : List Value)

namespace Event

/-- The record after an event. What entered code does to it is told by the
events of that code. -/
def apply (r : Record) : Event → Record
  | looked => r
  | wrote key value => r.set key value
  | removed key => (r.del key).2
  | stopped => r.stop
  | entered _ _ _ => r
  | refused operation _ => r.flag operation

/-- The operation of a refused call. -/
def refused? : Event → Option String
  | refused operation _ => some operation
  | _ => none

/-- Whether a call was answered as the surface has it: by the receiver that
it binds to the operation, or by a refusal where it binds none. -/
def AnsweredBy (surface : Surface) : Event → Prop
  | entered operation _ receiver =>
    surface.receiver? operation = some receiver
  | refused operation _ => surface.receiver? operation = none
  | _ => True

/-- Only a refused call is remembered, and only if it is the first. -/
theorem apply_violation (r : Record) (e : Event) :
    (e.apply r).violation = r.violation.or e.refused? := by
  cases e with
  | wrote key value => simp [apply, refused?]
  | removed key => simp [apply, refused?]
  | looked => simp [apply, refused?]
  | stopped => simp [apply, refused?, Record.stop]
  | entered operation args receiver => simp [apply, refused?]
  | refused operation args => simp [apply, refused?, Record.flag]

/-- A refused call leaves data and stop flag alone. -/
theorem apply_refused (r : Record) (operation : String)
    (args : List Value) :
    ((refused operation args).apply r).data = r.data
      ∧ ((refused operation args).apply r).stopped = r.stopped :=
  ⟨rfl, rfl⟩

/-- On a stopped record every event leaves data and stop flag alone. -/
theorem apply_stopped {r : Record} (h : r.stopped = true) (e : Event) :
    (e.apply r).stopped = true ∧ (e.apply r).data = r.data := by
  cases e with
  | wrote key value => simp [apply, Record.set, h]
  | removed key => simp [apply, Record.del, h]
  | looked => exact ⟨h, rfl⟩
  | stopped => exact ⟨rfl, rfl⟩
  | entered operation args receiver => exact ⟨h, rfl⟩
  | refused operation args => exact ⟨h, rfl⟩

/-- Nothing but a stop stops a record. -/
theorem apply_stops {r : Record} {e : Event} (hr : r.stopped = false)
    (he : (e.apply r).stopped = true) : e = stopped := by
  have hkept : (e.apply r).stopped = r.stopped ∨ e = stopped := by
    cases e with
    | wrote key value => simp [apply, Record.set, hr]
    | removed key => simp [apply, Record.del, hr]
    | looked => exact .inl rfl
    | stopped => exact .inr rfl
    | entered operation args receiver => exact .inl rfl
    | refused operation args => exact .inl rfl
  rcases hkept with hkept | hstop
  · rw [hkept, hr] at he
    cases he
  · exact hstop

end Event

-- ========================================================== moments

/-- An event, and the record that it happened to. -/
structure Moment where
  event : Event
  before : Record

namespace Moment

/-- The record that the event left. -/
def after (m : Moment) : Record := m.event.apply m.before

end Moment

/-- The operation of the first call that was refused. -/
def firstRefused? (moments : List Moment) : Option String :=
  moments.findSome? fun m => m.event.refused?

/-- The first moment after which the record was stopped. -/
def firstStop? (moments : List Moment) : Option Moment :=
  moments.find? fun m => m.after.stopped

-- ============================================================ paths

/-- The moments that lead from one record to another, none left out. -/
inductive Path : Record → List Moment → Record → Prop where
  | here (r : Record) : Path r [] r
  | step {r s : Record} {e : Event} {ms : List Moment}
      (rest : Path (e.apply r) ms s) : Path r (⟨e, r⟩ :: ms) s

namespace Path

variable {r s t : Record} {ms ns : List Moment}

/-- Paths join where one ends and the next begins. -/
theorem append (h : Path r ms s) (h' : Path s ns t) :
    Path r (ms ++ ns) t := by
  induction h with
  | here r => exact h'
  | step _ ih => exact .step (ih h')

/-- A path of one moment. -/
theorem single (r : Record) (e : Event) : Path r [⟨e, r⟩] (e.apply r) :=
  .step (.here _)

/-- The record remembers what it remembered at the start, or else the
first refused call on the way. -/
theorem violation (h : Path r ms s) :
    s.violation = r.violation.or (firstRefused? ms) := by
  induction h with
  | here r => simp [firstRefused?]
  | @step r s e ms _ ih =>
      rw [ih, Event.apply_violation]
      unfold firstRefused?
      rw [List.findSome?_cons]
      cases he : e.refused? with
      | none => simp
      | some operation => cases r.violation <;> simp

/-- From a stopped record on, every record on the way is stopped and holds
the same data. -/
theorem frozen (h : Path r ms s) (hr : r.stopped = true) :
    (s.stopped = true ∧ s.data = r.data)
      ∧ ∀ m ∈ ms, (m.before.stopped = true ∧ m.before.data = r.data)
        ∧ m.after.stopped = true ∧ m.after.data = r.data := by
  induction h with
  | here r => exact ⟨⟨hr, rfl⟩, fun m hm => by cases hm⟩
  | @step r s e ms _ ih =>
      obtain ⟨hstop, hdata⟩ := Event.apply_stopped hr e
      obtain ⟨hend, hall⟩ := ih hstop
      rw [hdata] at hend hall
      refine ⟨hend, fun m hm => ?_⟩
      rcases List.mem_cons.mp hm with rfl | hm'
      · exact ⟨⟨hr, rfl⟩, hstop, hdata⟩
      · exact hall m hm'

/-- Whatever came after it, the data at the end of a path is the data at
the first moment that left the record stopped. -/
theorem data_firstStop (h : Path r ms s) {m : Moment}
    (hm : firstStop? ms = some m) :
    s.stopped = true ∧ s.data = m.after.data := by
  induction h with
  | here r => cases hm
  | @step r s e ms rest ih =>
      unfold firstStop? at hm ih
      rw [List.find?_cons] at hm
      cases hstop : (Moment.mk e r).after.stopped with
      | true =>
          simp only [hstop, Option.some.injEq] at hm
          subst hm
          exact (rest.frozen hstop).1
      | false =>
          simp only [hstop] at hm
          exact ih hm

/-- On a path from a record that is not stopped, the first moment that
leaves it stopped is the stop itself. -/
theorem firstStop_stops (h : Path r ms s) (hr : r.stopped = false)
    {m : Moment} (hm : firstStop? ms = some m) :
    m.event = .stopped ∧ m.before.stopped = false := by
  induction h with
  | here r => cases hm
  | @step r s e ms rest ih =>
      unfold firstStop? at hm ih
      rw [List.find?_cons] at hm
      cases hstop : (Moment.mk e r).after.stopped with
      | true =>
          simp only [hstop, Option.some.injEq] at hm
          subst hm
          exact ⟨Event.apply_stops hr hstop, hr⟩
      | false =>
          simp only [hstop] at hm
          exact ih hstop hm

end Path

end Logline
