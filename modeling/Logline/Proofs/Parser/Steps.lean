/-
What a line parser does on the way to a reply.

An activation compiles the bindings again and again and runs the setups of
the addins between; a parse runs the rules after that. A reply shows only
where this ended. Here it is told step by step: the compilations, each with
its result, and the runs, each with the surface, the code and the record it
was started with. The steps are read off the very functions that take them,
so a step is there exactly when it was taken.

# The ways of an activation

`Setups` and `Activation` list the ways in which an activation can go, each
with its steps and its reply: a compilation fails, a setup does, or all is
well. The functions take one of these ways (`activateAddins_setups`,
`activate_activation`), so a fact about activations is an induction on
them, and no proof after these two opens the functions again.

# What the steps say

- Nothing but record, sandbox and the mark of activation ever changes
  (`Keeps`).
- The moments of the runs are one path from the record before an activation
  to the record after it (`activate_path`): between two runs nothing
  touches the record.
-/
import Logline.Parser.LineParser
import Logline.Proofs.Sandbox.Trace

namespace Logline.LineParser

-- ============================================================= steps

/-- A run of code in the sandbox of a parser, as it was started. -/
structure Run where
  scope : Scope
  code : Code
  start : Progress

/-- A step of a parser. -/
inductive Step where
  /-- The bindings as they stood were compiled. -/
  | compiled (result : Except Error Surface)
  | ran (run : Run)

/-- The moments of a run. -/
def Run.moments (depth : Nat) (run : Run) : List Moment :=
  run.code.moments depth run.scope run.start

/-- The moments of a step. -/
def Step.moments (depth : Nat) : Step → List Moment
  | .compiled _ => []
  | .ran run => run.moments depth

/-- The moments of steps, one after the other. -/
def momentsOf (depth : Nat) (steps : List Step) : List Moment :=
  steps.flatMap (Step.moments depth)

/-- The moments of more steps come after those of the first. -/
theorem momentsOf_append (depth : Nat) (steps later : List Step) :
    momentsOf depth (steps ++ later)
      = momentsOf depth steps ++ momentsOf depth later :=
  List.flatMap_append

/-- The step of `install`. -/
def installStep (p : LineParser) (bindings : List (String × Receiver)) :
    Step := .compiled (p.context.bindAll bindings).compile.1

/-- The steps of `runCode`. Where there is no surface nothing is run. -/
def codeSteps (p : LineParser) (code : Code) (journal : List Entry) :
    List Step :=
  match p.context.compile.1 with
  | .error _ => []
  | .ok surface =>
    [.ran ⟨⟨surface, p.line, p.options.settings⟩, code, ⟨p.record, journal⟩⟩]

/-- The steps of `activateAddins`. -/
def setupSteps (depth : Nat) :
    List Addin → LineParser → List Entry → List Step
  | [], _, _ => []
  | addin :: rest, p, journal =>
    p.installStep addin.bindings ::
      match p.install addin.bindings with
      | (.error _, _) => []
      | (.ok _, p) =>
        p.codeSteps addin.setup journal ++
          match p.runCode depth addin.setup journal with
          | ⟨.ok _, p, journal⟩ => setupSteps depth rest p journal
          | _ => []

/-- The steps of `activate`. -/
def activationSteps (depth : Nat) (p : LineParser) : List Step :=
  if p.activated then []
  else
    p.installStep p.kind.whitelist ::
      match p.install p.kind.whitelist with
      | (.error _, _) => []
      | (.ok _, p) => setupSteps depth p.kind.addins p []

-- ============================================= the ways of an activation

/-- The ways in which setups go from a parser on: the steps taken, and the
reply. -/
inductive Setups (depth : Nat) :
    List Addin → LineParser → List Entry → List Step → Reply Unit → Prop where
  | none (p : LineParser) (journal : List Entry) :
      Setups depth [] p journal [] ⟨.ok (), p, journal⟩
  | uncompiled {addin : Addin} {rest : List Addin} {p q : LineParser}
      {journal : List Entry} {cause : Error}
      (install : p.install addin.bindings = (.error cause, q)) :
      Setups depth (addin :: rest) p journal
        [p.installStep addin.bindings] ⟨.failed cause, q, journal⟩
  | failed {addin : Addin} {rest : List Addin} {p q s : LineParser}
      {journal journal' : List Entry} {cause : Error}
      (install : p.install addin.bindings = (.ok (), q))
      (run : q.runCode depth addin.setup journal
        = ⟨.failed cause, s, journal'⟩) :
      Setups depth (addin :: rest) p journal
        (p.installStep addin.bindings :: q.codeSteps addin.setup journal)
        ⟨.failed cause, s, journal'⟩
  | exhausted {addin : Addin} {rest : List Addin} {p q s : LineParser}
      {journal journal' : List Entry}
      (install : p.install addin.bindings = (.ok (), q))
      (run : q.runCode depth addin.setup journal
        = ⟨.exhausted, s, journal'⟩) :
      Setups depth (addin :: rest) p journal
        (p.installStep addin.bindings :: q.codeSteps addin.setup journal)
        ⟨.exhausted, s, journal'⟩
  | next {addin : Addin} {rest : List Addin} {p q s : LineParser}
      {journal journal' : List Entry} {result : Option Value}
      {steps : List Step} {reply : Reply Unit}
      (install : p.install addin.bindings = (.ok (), q))
      (run : q.runCode depth addin.setup journal
        = ⟨.ok result, s, journal'⟩)
      (later : Setups depth rest s journal' steps reply) :
      Setups depth (addin :: rest) p journal
        (p.installStep addin.bindings
          :: (q.codeSteps addin.setup journal ++ steps)) reply

/-- Setups go one of their ways. -/
theorem activateAddins_setups (depth : Nat) (addins : List Addin)
    (p : LineParser) (journal : List Entry) :
    Setups depth addins p journal (setupSteps depth addins p journal)
      (activateAddins depth addins p journal) := by
  induction addins generalizing p journal with
  | nil => exact .none p journal
  | cons addin rest ih =>
      unfold setupSteps activateAddins
      rcases hi : p.install addin.bindings with ⟨_ | _, q⟩
      · exact .uncompiled hi
      · dsimp only
        rcases hr : q.runCode depth addin.setup journal with
          ⟨_ | _ | _, s, journal'⟩
        · exact .next hi hr (ih s journal')
        · simp only [List.append_nil]
          exact .failed hi hr
        · simp only [List.append_nil]
          exact .exhausted hi hr

/-- The ways in which an activation goes. -/
inductive Activation (depth : Nat) (p : LineParser) :
    List Step → Reply Unit → Prop where
  | before (done : p.activated = true) : Activation depth p [] ⟨.ok (), p, []⟩
  | uncompiled {q : LineParser} {cause : Error}
      (fresh : p.activated = false)
      (install : p.install p.kind.whitelist = (.error cause, q)) :
      Activation depth p [p.installStep p.kind.whitelist]
        ⟨.failed cause, q, []⟩
  | broken {q : LineParser} {steps : List Step} {reply : Reply Unit}
      (fresh : p.activated = false)
      (install : p.install p.kind.whitelist = (.ok (), q))
      (setups : Setups depth q.kind.addins q [] steps reply)
      (unfinished : reply.outcome ≠ .ok ()) :
      Activation depth p (p.installStep p.kind.whitelist :: steps) reply
  | finished {q s : LineParser} {steps : List Step} {journal : List Entry}
      (fresh : p.activated = false)
      (install : p.install p.kind.whitelist = (.ok (), q))
      (setups : Setups depth q.kind.addins q [] steps ⟨.ok (), s, journal⟩) :
      Activation depth p (p.installStep p.kind.whitelist :: steps)
        ⟨.ok (), { s with activated := true }, journal⟩

/-- An activation goes one of its ways. -/
theorem activate_activation (depth : Nat) (p : LineParser) :
    Activation depth p (p.activationSteps depth) (p.activate depth) := by
  unfold activationSteps activate
  cases ha : p.activated with
  | true => exact .before ha
  | false =>
      rcases hi : p.install p.kind.whitelist with ⟨_ | _, q⟩
      · exact .uncompiled ha hi
      · have hs := activateAddins_setups depth q.kind.addins q []
        simp only [Bool.false_eq_true, if_false]
        rcases hr : activateAddins depth q.kind.addins q [] with
          ⟨_ | _ | _, s, journal⟩
        · rw [hr] at hs
          exact .finished ha hi hs
        · rw [hr] at hs
          exact .broken ha hi hs nofun
        · rw [hr] at hs
          exact .broken ha hi hs nofun

-- ==================================================== what never changes

/-- `q` is `p` but for its record, its sandbox and its activation. -/
structure Keeps (p q : LineParser) : Prop where
  kind : q.kind = p.kind
  line : q.line = p.line
  options : q.options = p.options
  presets : q.presets = p.presets
  data : q.data = p.data

namespace Keeps

theorem refl (p : LineParser) : Keeps p p := ⟨rfl, rfl, rfl, rfl, rfl⟩

theorem trans {p q s : LineParser} (h : Keeps p q) (h' : Keeps q s) :
    Keeps p s :=
  ⟨h'.kind.trans h.kind, h'.line.trans h.line,
    h'.options.trans h.options, h'.presets.trans h.presets,
    h'.data.trans h.data⟩

end Keeps

/-- A parser of the given kind, line and options that has the given presets
of its own. -/
structure Identity (kind : ParserKind) (line : String) (options : Options)
    (presets : List (Key × Value)) (p : LineParser) : Prop where
  kind : p.kind = kind
  line : p.line = line
  options : p.options = options
  presets : p.presets = presets

theorem Identity.of_keeps {kind : ParserKind} {line : String}
    {options : Options} {presets : List (Key × Value)} {p q : LineParser}
    (h : p.Identity kind line options presets) (hkeeps : Keeps p q) :
    q.Identity kind line options presets :=
  ⟨hkeeps.kind.trans h.kind, hkeeps.line.trans h.line,
    hkeeps.options.trans h.options, hkeeps.presets.trans h.presets⟩

section

variable {depth : Nat} {p q s : LineParser}

/-- Installing bindings changes the sandbox and nothing else. -/
theorem install_eq {bindings : List (String × Receiver)}
    {result : Except Error Unit} (h : p.install bindings = (result, q)) :
    q = { p with context := q.context } := by
  cases h
  rfl

/-- Running code changes record and sandbox and nothing else. -/
theorem runCode_eq {code : Code} {journal journal' : List Entry}
    {outcome : Outcome (Option Value)}
    (h : p.runCode depth code journal = ⟨outcome, s, journal'⟩) :
    s = { p with record := s.record, context := s.context } := by
  have hs : s = (p.runCode depth code journal).parser := by rw [h]
  rw [hs]
  rfl

theorem install_keeps {bindings : List (String × Receiver)}
    {result : Except Error Unit} (h : p.install bindings = (result, q)) :
    Keeps p q := by
  rw [install_eq h]
  exact ⟨rfl, rfl, rfl, rfl, rfl⟩

theorem runCode_keeps {code : Code} {journal journal' : List Entry}
    {outcome : Outcome (Option Value)}
    (h : p.runCode depth code journal = ⟨outcome, s, journal'⟩) :
    Keeps p s := by
  rw [runCode_eq h]
  exact ⟨rfl, rfl, rfl, rfl, rfl⟩

/-- Installing an addin and running its setup. -/
theorem setup_keeps {addin : Addin} {journal journal' : List Entry}
    {outcome : Outcome (Option Value)}
    (install : p.install addin.bindings = (.ok (), q))
    (run : q.runCode depth addin.setup journal = ⟨outcome, s, journal'⟩) :
    Keeps p s :=
  (install_keeps install).trans (runCode_keeps run)

theorem Setups.keeps {addins : List Addin} {journal : List Entry}
    {steps : List Step} {reply : Reply Unit}
    (h : Setups depth addins p journal steps reply) :
    Keeps p reply.parser := by
  induction h with
  | none p journal => exact .refl p
  | uncompiled install => exact install_keeps install
  | failed install run => exact setup_keeps install run
  | exhausted install run => exact setup_keeps install run
  | next install run _ ih => exact (setup_keeps install run).trans ih

theorem Activation.keeps {steps : List Step} {reply : Reply Unit}
    (h : Activation depth p steps reply) : Keeps p reply.parser := by
  cases h with
  | before done => exact .refl p
  | uncompiled fresh install => exact install_keeps install
  | broken fresh install setups _ =>
      exact (install_keeps install).trans setups.keeps
  | finished fresh install setups =>
      have hs := (install_keeps install).trans setups.keeps
      exact ⟨hs.kind, hs.line, hs.options, hs.presets, hs.data⟩

theorem activate_keeps (depth : Nat) (p : LineParser) :
    Keeps p (p.activate depth).parser :=
  (activate_activation depth p).keeps

-- ====================================================== paths of records

theorem install_record {bindings : List (String × Receiver)}
    {result : Except Error Unit} (h : p.install bindings = (result, q)) :
    q.record = p.record := by
  rw [install_eq h]

/-- A run is what a parser makes of code: it ends as the program does, and
leaves the record and the journal that the program does. -/
structure Run.Made (depth : Nat) (p : LineParser) (code : Code)
    (journal : List Entry) (run : Run) : Prop where
  ran : run.code = code
  outcome : ∀ result, (p.runCode depth code journal).outcome = .ok result
    ↔ (run.code.run depth run.scope run.start).1 = .returned result
  record : (p.runCode depth code journal).parser.record
    = (run.code.run depth run.scope run.start).2.record
  journal : (p.runCode depth code journal).journal
    = (run.code.run depth run.scope run.start).2.journal

/-- What is made of code is the run of its step. -/
theorem made_of_codeSteps {code : Code} {journal : List Entry} {run : Run}
    (h : p.codeSteps code journal = [.ran run]) :
    run.Made depth p code journal := by
  unfold codeSteps at h
  rcases hc : p.context.compile with ⟨_ | surface, context⟩
  · rw [hc] at h
    cases h
  · rw [hc] at h
    cases h
    refine ⟨rfl, fun result => ?_, ?_, ?_⟩
    all_goals unfold runCode Context.run; rw [hc]
    dsimp only
    cases (code.run depth ⟨surface, p.line, p.options.settings⟩
      ⟨p.record, journal⟩).1 <;> simp

/-- Running code is the run of its step. -/
theorem runCode_path {code : Code} {journal journal' : List Entry}
    {outcome : Outcome (Option Value)}
    (h : p.runCode depth code journal = ⟨outcome, s, journal'⟩) :
    Path p.record (momentsOf depth (p.codeSteps code journal)) s.record := by
  have hs : s = (p.runCode depth code journal).parser := by rw [h]
  subst hs
  unfold runCode codeSteps Context.run
  rcases p.context.compile with ⟨_ | surface, context⟩
  · exact .here _
  · have hpath := code.trace_path depth ⟨surface, p.line, p.options.settings⟩
      ⟨p.record, journal⟩
    simpa [momentsOf, Step.moments, Run.moments] using hpath

/-- Installing an addin and running its setup is one path. -/
theorem setup_path {addin : Addin} {journal journal' : List Entry}
    {outcome : Outcome (Option Value)}
    (install : p.install addin.bindings = (.ok (), q))
    (run : q.runCode depth addin.setup journal = ⟨outcome, s, journal'⟩) :
    Path p.record (momentsOf depth
      (p.installStep addin.bindings :: q.codeSteps addin.setup journal))
      s.record := by
  rw [← install_record install]
  exact runCode_path run

/-- The moments of setups are a path. -/
theorem Setups.path {addins : List Addin} {journal : List Entry}
    {steps : List Step} {reply : Reply Unit}
    (h : Setups depth addins p journal steps reply) :
    Path p.record (momentsOf depth steps) reply.parser.record := by
  induction h with
  | none p journal => exact .here _
  | uncompiled install =>
      rw [← install_record install]
      exact .here _
  | failed install run => exact setup_path install run
  | exhausted install run => exact setup_path install run
  | next install run _ ih =>
      rw [← List.cons_append, momentsOf_append]
      exact (setup_path install run).append ih

theorem Activation.path {steps : List Step} {reply : Reply Unit}
    (h : Activation depth p steps reply) :
    Path p.record (momentsOf depth steps) reply.parser.record := by
  cases h with
  | before done => exact .here _
  | uncompiled fresh install =>
      rw [← install_record install]
      exact .here _
  | broken fresh install setups _ =>
      rw [← install_record install]
      exact setups.path
  | finished fresh install setups =>
      rw [← install_record install]
      exact setups.path

/-- The moments of an activation are a path. -/
theorem activate_path (depth : Nat) (p : LineParser) :
    Path p.record (momentsOf depth (p.activationSteps depth))
      (p.activate depth).parser.record :=
  (activate_activation depth p).path

end

end Logline.LineParser
