/-
Sandboxed code calls what it was given, and nothing else.

Whatever code runs on a surface, and however deeply its calls are nested, a
call either goes into the receiver that the surface binds to the operation
or is refused, and a refused call changes nothing that code can see. Code
may swallow the error it is answered with. The record remembers it all the
same, whatever else is asked of it before the parse that looks: the data of
a line on which a call was refused is never handed out.

The two halves come from the trace of a run (`Code.trace_answered`) and
from the path of a record through its life (`Life.Told`); this file joins
them.
-/
import Logline.Proofs.Parser.Life

namespace Logline

namespace Moment

/-- A call was answered as the surface has it, and if that was a refusal
neither data nor stop flag were touched. -/
def Confined (surface : Surface) (m : Moment) : Prop :=
  m.event.AnsweredBy surface
    ∧ (m.event.refused?.isSome = true →
      m.after.data = m.before.data ∧ m.after.stopped = m.before.stopped)

theorem confined_of_answered {surface : Surface} {m : Moment}
    (h : m.event.AnsweredBy surface) : m.Confined surface := by
  refine ⟨h, fun hrefused => ?_⟩
  rcases m with ⟨event, before⟩
  cases event with
  | refused operation args =>
      exact Event.apply_refused before operation args
  | looked => cases hrefused
  | wrote key value => cases hrefused
  | removed key => cases hrefused
  | stopped => cases hrefused
  | entered operation args receiver => cases hrefused

end Moment

/-- What is said of a parse that looks at a record of which a call was
refused. -/
structure LineParser.Poisoned (p : LineParser) (depth : Nat)
    (operation : String) : Prop where
  /-- It fails, if it ends at all. -/
  fails : (p.parse depth).outcome ≠ .exhausted →
    ∃ cause, (p.parse depth).outcome = .failed cause
  /-- No data is left behind. -/
  absent : (p.parse depth).parser.data = none
  /-- Where nothing else went wrong it names the operation. -/
  named : ∀ q journal s journal' result,
    p.activate depth = ⟨.ok (), q, journal⟩ →
    q.runCode depth q.kind.rules.code journal = ⟨.ok result, s, journal'⟩ →
    (p.parse depth).outcome = .failed (.capability operation)

open LineParser

/-- A parse does not succeed where a call was refused since the beginning
of the record. -/
theorem Life.Told.poisoned {life : Life} (h : life.Told) {depth : Nat}
    {operation : String} (unparsed : life.parser.data = none)
    (refused : firstRefused?
      (life.moments ++ life.parser.asked (.parse depth)) = some operation) :
    life.parser.Poisoned depth operation := by
  -- a success would have found the record without violation at the end of
  -- a path that has one
  have hnot : ∀ data, (life.parser.parse depth).outcome ≠ .ok data := by
    intro data hok
    obtain ⟨record, hpath, hclean, -⟩ := h.of_parsed unparsed hok
    rw [hpath.violation, h.violation, refused] at hclean
    cases hclean
  have hdata := (parse_parsing depth life.parser).data
  refine ⟨fun hends => ?_, ?_, fun q journal s journal' result active rules =>
    h.parse_refused unparsed refused active rules⟩
  · cases ho : (life.parser.parse depth).outcome with
    | ok data => exact absurd ho (hnot data)
    | failed cause => exact ⟨cause, rfl⟩
    | exhausted => exact absurd ho hends
  · rw [hdata]
    cases ho : (life.parser.parse depth).outcome with
    | ok data => exact absurd ho (hnot data)
    | failed cause => rfl
    | exhausted => rfl

-- ======================================================== confinement

/-- Confinement and poisoning, for all code, on all surfaces and at all
depths, and for all that is ever done with a parser of any kind. -/
theorem calls_confined :
    -- a bound call goes into the code of the receiver it is bound to
    (∀ depth scope operation receiver args next p,
      scope.surface.receiver? operation = some receiver →
      (⟨.entered operation args receiver, p.record⟩
          :: (receiver.invoke operation args).moments depth scope p)
        <+: (Code.call operation args next).moments (depth + 1) scope p)
    -- any other call is refused and goes on at once
    ∧ (∀ depth scope operation args next p,
      scope.surface.receiver? operation = none →
      (Code.call operation args next).moments depth scope p
        = ⟨.refused operation args, p.record⟩
          :: (next (.error (.capability operation))).moments depth scope
            (p.next (.refused operation args)))
    -- so it goes for every call on the way of every run
    ∧ (∀ depth scope (code : Code) p,
      (code.trace depth scope p).2 = code.run depth scope p
        ∧ Path p.record (code.moments depth scope p)
          (code.run depth scope p).2.record
        ∧ ∀ m ∈ code.moments depth scope p, m.Confined scope.surface)
    -- and a refused call in the life of a record fails the parse of it
    ∧ ∀ kind line options actions depth operation,
      (Life.of kind line options actions).parser.data = none →
      firstRefused? ((Life.of kind line options actions).moments
        ++ (Life.of kind line options actions).parser.asked (.parse depth))
        = some operation →
      (Life.of kind line options actions).parser.Poisoned depth operation := by
  refine ⟨?_, ?_, ?_, ?_⟩
  · intro depth scope operation receiver args next p h
    exact Code.moments_call_bound depth scope h args next p
  · intro depth scope operation args next p h
    exact Code.moments_call_unbound depth scope h args next p
  · intro depth scope code p
    refine ⟨code.trace_run depth scope p, code.trace_path depth scope p,
      fun m hm => ?_⟩
    exact Moment.confined_of_answered (code.trace_answered depth scope p m hm)
  · intro kind line options actions depth operation unparsed refused
    exact (Life.of_told kind line options actions).poisoned unparsed refused

/-- An addin whose setup and whose one operation do nothing. -/
def idle : Addin :=
  ⟨"Idle", ["idle"], (· == "idle"), fun _ _ => .done none, .done none⟩

/-- A scope with the operation of that addin. -/
def idling : Scope := ⟨⟨.ofList idle.bindings, 0⟩, "x", .empty⟩

/-- A kind with that addin. Its rules call an operation that nothing binds,
and swallow the error. -/
def prying : ParserKind where
  name := "prying"
  whitelist := []
  addins := [idle]
  presets := []
  rules := [.set (.symbol "seen") (.bool true),
    .run (.call "pry" [] fun _ => .done none)]

/-- What is done with a parser of that kind before it parses. -/
def peeking : List Action :=
  [.activate 0, .withCurrent 0 (.call "peek" [] fun _ => .done none)]

/-- The call that was swallowed first is named, although it was made on the
surface of the addin and the rules went on to make another. -/
theorem calls_confined_prying :
    (⟨.entered "idle" [] idle.receiver, .empty⟩
        :: (idle.receiver.invoke "idle" []).moments 0 idling ⟨.empty, []⟩)
      <+: (Code.call "idle" [] fun _ => .done none).moments 1 idling
        ⟨.empty, []⟩
    ∧ (Code.call "pry" [] fun _ => .done none).moments 1 idling ⟨.empty, []⟩
      = [⟨.refused "pry" [], .empty⟩]
    ∧ ((Life.of prying "x" .initial peeking).parser.parse 0).outcome
      = .failed (.capability "peek") := by
  refine ⟨?_, ?_, ?_⟩
  · exact calls_confined.1 0 idling "idle" idle.receiver [] _ ⟨.empty, []⟩ rfl
  · exact calls_confined.2.1 1 idling "pry" [] _ ⟨.empty, []⟩ rfl
  · exact (calls_confined.2.2.2 prying "x" .initial peeking 0 "peek"
      rfl rfl).named _ _ _ _ _ rfl rfl

end Logline
