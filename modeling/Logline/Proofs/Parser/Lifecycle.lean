/-
What a parse leaves a line parser as.

A parse that fails starts the parser over. Its presets are kept twice, in
the record and in a list of their own, and only the list survives: record,
sandbox and activation are made new from it. The record that is made so is
the one that a new parser gets when it is preset one key after the other
(`presetAll_make`), whatever became of the former record on the way.

A parse that succeeds settles the parser. From then on it has data and is
activated (`Settled`), no action takes a step, and none changes either.
-/
import Logline.Proofs.Parser.Life

namespace Logline

/-- A preset more is a write to the fresh record. -/
theorem Record.seeded_set (presets : List (Key × Value)) (key : Key)
    (value : Value) :
    (seeded presets).set key value = seeded (presets ++ [(key, value)]) := by
  unfold set seeded
  rw [List.foldl_append]
  rfl

namespace LineParser

-- ========================================================= starting over

/-- Presets keys, one after the other. -/
def presetAll (p : LineParser) (presets : List (String × Value)) :
    LineParser :=
  presets.foldl (fun p given => p.preset given.1 given.2) p

/-- A parser with presets of its own of which nothing else was asked. -/
def untouched (kind : ParserKind) (line : String) (options : Options)
    (presets : List (Key × Value)) : LineParser where
  kind := kind
  line := line
  options := options
  presets := presets
  record := .seeded (kind.presets ++ presets)
  context := .empty
  activated := false
  data := none

section

variable {kind : ParserKind} {line : String} {options : Options}

/-- Presetting one key after the other is having the presets from the
start. -/
theorem presetAll_untouched (presets : List (Key × Value))
    (given : List (String × Value)) :
    (untouched kind line options presets).presetAll given
      = untouched kind line options (presets ++ keyed given) := by
  unfold presetAll
  induction given generalizing presets with
  | nil =>
      have hnil : presets ++ keyed [] = presets := List.append_nil _
      rw [hnil]
      rfl
  | cons first rest ih =>
      have hfirst : (untouched kind line options presets).preset
          first.1 first.2
          = untouched kind line options
            (presets ++ [(.symbol first.1, first.2)]) := by
        unfold preset untouched
        dsimp only
        rw [Record.seeded_set, List.append_assoc]
      rw [List.foldl_cons, hfirst, ih, List.append_assoc]
      rfl

theorem presetAll_make (given : List (String × Value)) :
    (make kind line options).presetAll given
      = untouched kind line options (keyed given) := by
  have hmake : make kind line options = untouched kind line options [] := by
    unfold make untouched
    rw [List.append_nil]
  rw [hmake, presetAll_untouched, List.nil_append]

/-- Starting over leaves nothing of a parser but its identity. -/
theorem reset_untouched {presets : List (Key × Value)} {p : LineParser}
    (h : p.Identity kind line options presets) (hd : p.data = none) :
    p.reset = untouched kind line options presets := by
  obtain ⟨rfl, rfl, rfl, rfl⟩ := h
  unfold reset untouched
  rw [hd]

end

-- ======================================================== settling down

/-- A parser that has parsed its line. -/
structure Settled (data : Data) (p : LineParser) : Prop where
  data : p.data = some data
  activated : p.activated = true

section

variable {depth : Nat} {p q s : LineParser} {data : Data}

theorem Activation.activated {steps : List Step} {reply : Reply Unit}
    (h : Activation depth p steps reply) (hok : reply.outcome = .ok ()) :
    reply.parser.activated = true := by
  cases h with
  | before done => exact done
  | finished fresh install setups => rfl
  | uncompiled fresh install => cases hok
  | broken fresh install setups unfinished => exact absurd hok unfinished

theorem Evaluation.activated {steps : List Step} {reply : Reply Data}
    (h : Evaluation depth p steps reply) (hok : reply.outcome = .ok data) :
    reply.parser.activated = true := by
  have hactive := (activate_activation depth p).activated
  cases h with
  | @finished q s journal journal' result active rules violation =>
      rw [active] at hactive
      have hs : s.activated = q.activated := by rw [runCode_eq rules]
      exact hs.trans (hactive rfl)
  | inactive active => cases hok
  | stuck active => cases hok
  | failed active rules => cases hok
  | exhausted active rules => cases hok
  | violated active rules violation => cases hok

/-- No action does anything with a settled parser, but that presets are
still taken down. -/
theorem Settled.steps (h : p.Settled data) (action : Action) :
    p.steps action = [] := by
  cases action with
  | preset name value => rfl
  | activate depth => simp only [LineParser.steps, activationSteps,
      h.activated, if_true]
  | withCurrent depth code => simp only [LineParser.steps, currentSteps,
      h.data]
  | parse depth => simp only [LineParser.steps, parseSteps, h.data]

theorem Settled.activate (h : p.Settled data) (depth : Nat) :
    p.activate depth = ⟨.ok (), p, []⟩ := by
  simp only [LineParser.activate, h.activated, if_true]

theorem Settled.withCurrent (h : p.Settled data) (depth : Nat)
    (code : Code) : p.withCurrent depth code = ⟨.ok none, p, []⟩ := by
  simp only [LineParser.withCurrent, h.data]

theorem Settled.parse (h : p.Settled data) (depth : Nat) :
    p.parse depth = ⟨.ok data, p, []⟩ := by
  simp only [LineParser.parse, h.data]

/-- A settled parser stays settled on the same data. -/
theorem Settled.act (h : p.Settled data) (action : Action) :
    (p.act action).Settled data := by
  cases action with
  | preset name value => exact ⟨h.data, h.activated⟩
  | activate depth =>
      have hact : p.act (.activate depth) = p :=
        congrArg Reply.parser (h.activate depth)
      rw [hact]
      exact h
  | withCurrent depth code =>
      have hact : p.act (.withCurrent depth code) = p :=
        congrArg Reply.parser (h.withCurrent depth code)
      rw [hact]
      exact h
  | parse depth =>
      have hact : p.act (.parse depth) = p :=
        congrArg Reply.parser (h.parse depth)
      rw [hact]
      exact h

/-- A parse that succeeds settles a parser that was new to its line. -/
theorem Parsing.settled {steps : List Step} {reply : Reply Data}
    (h : Parsing depth p steps reply) (unknown : p.data = none)
    (hok : reply.outcome = .ok data) : reply.parser.Settled data := by
  have hdata := h.data
  rw [hok] at hdata
  cases h with
  | known known =>
      rw [unknown] at known
      cases known
  | parsed unknown evaluation => exact ⟨hdata, evaluation.activated rfl⟩
  | restarted unknown evaluation unparsed => exact absurd hok (unparsed data)

/-- Only a parse gets a parser data, and settles it. -/
theorem act_settled (unknown : p.data = none) (action : Action)
    (h : (p.act action).data = some data) : (p.act action).Settled data := by
  cases action with
  | preset name value => cases unknown.symm.trans h
  | activate depth =>
      have hdata := (activate_keeps depth p).data
      cases (hdata.trans unknown).symm.trans h
  | withCurrent depth code =>
      obtain ⟨record, hact⟩ := act_withCurrent depth p code
      rw [hact] at h
      cases unknown.symm.trans h
  | parse depth =>
      have hparse := parse_parsing depth p
      have hdata := hparse.data
      cases ho : (p.parse depth).outcome with
      | ok found =>
          rw [ho] at hdata
          cases hdata.symm.trans h
          exact hparse.settled unknown ho
      | failed cause =>
          rw [ho] at hdata
          cases hdata.symm.trans h
      | exhausted =>
          rw [ho] at hdata
          cases hdata.symm.trans h

/-- Only a settled parser has data. -/
theorem data_settled (kind : ParserKind) (line : String)
    (options : Options) (actions : List Action) :
    ∀ data, ((make kind line options).after actions).data = some data →
      ((make kind line options).after actions).Settled data := by
  have hstep : ∀ (p : LineParser) (action : Action),
      (∀ data, p.data = some data → p.Settled data) →
      ∀ data, (p.act action).data = some data →
        (p.act action).Settled data := by
    intro p action h data hdata
    cases hp : p.data with
    | some known =>
        have hsettled := (h known hp).act action
        rw [hsettled.data, Option.some.injEq] at hdata
        exact hdata ▸ hsettled
    | none => exact act_settled hp action hdata
  refine after_invariant hstep (fun data h => ?_) actions
  cases h

end

-- ===================================================== after a parse

/-- Whatever was done with a parser, a parse that fails leaves it as a new
one with all its presets, and a parse that succeeds leaves one that keeps
to its data and runs nothing, whatever is done with it later. -/
theorem parse_restarts_or_settles (kind : ParserKind) (line : String)
    (options : Options) (actions : List Action) (depth : Nat) :
    (∀ cause,
      (((make kind line options).after actions).parse depth).outcome
        = .failed cause →
      (((make kind line options).after actions).parse depth).parser
        = (make kind line options).presetAll (presetsOf actions))
    ∧ ∀ data,
      (((make kind line options).after actions).parse depth).outcome
        = .ok data →
      ∀ later q,
        q = (((make kind line options).after actions).parse depth
          ).parser.after later →
        q.data = some data
          ∧ (∀ depth, q.parse depth = ⟨.ok data, q, []⟩)
          ∧ (∀ depth code, q.withCurrent depth code = ⟨.ok none, q, []⟩)
          ∧ ∀ action, q.steps action = [] := by
  have hidentity := make_identity kind line options actions
  have hsettled := data_settled kind line options actions
  generalize (make kind line options).after actions = p at hidentity hsettled
  have hparse := parse_parsing depth p
  constructor
  · intro cause hfailed
    rw [presetAll_make]
    generalize p.parse depth = reply at hparse hfailed ⊢
    generalize p.parseSteps depth = steps at hparse
    cases hparse with
    | known known => cases hfailed
    | parsed unknown evaluation => cases hfailed
    | restarted unknown evaluation unparsed =>
        have hkeeps := evaluation.keeps
        have hq := hidentity.of_keeps hkeeps
        exact reset_untouched hq (hkeeps.data.trans unknown)
  · -- a parse that only repeats its data found the parser settled already
    rintro data hok later q rfl
    have hp : (p.parse depth).parser.Settled data := by
      cases hd : p.data with
      | none => exact hparse.settled hd hok
      | some known =>
          have hknown := (hsettled known hd).parse depth
          rw [hknown] at hok ⊢
          cases hok
          exact hsettled data hd
    have hq : ((p.parse depth).parser.after later).Settled data :=
      after_invariant (fun p action h => h.act action) hp later
    exact ⟨hq.data, hq.parse, hq.withCurrent, hq.steps⟩

end LineParser

open LineParser

/-- A kind that fails unless the line was preset to be good. -/
def picky : ParserKind where
  name := "picky"
  whitelist := []
  addins := []
  presets := [(.sym "kind", .str "picky")]
  rules := [.set (.sym "tried") (.bool true),
    .run (.look fun view =>
      if Table.has view.data (.sym "good") then .stop (.done none)
      else .fail (.configuration (.custom "not good")))]

/-- The first parse fails and leaves no trace; the second succeeds on the
preset that was made between them, and the third repeats it. -/
theorem parse_restarts_or_settles_picky :
    ((make picky "x" .initial).parse 0).parser
      = (make picky "x" .initial).presetAll []
    ∧ ∃ data,
      (((make picky "x" .initial).after
        [.parse 0, .preset "good" (.bool true)]).parse 0).outcome = .ok data
      ∧ ((((make picky "x" .initial).after
        [.parse 0, .preset "good" (.bool true)]).parse 0).parser.after
          [.preset "late" .nil, .activate 0]).data = some data := by
  refine ⟨?_, _, rfl, ?_⟩
  · exact (parse_restarts_or_settles picky "x" .initial [] 0).1 _ rfl
  · exact ((parse_restarts_or_settles picky "x" .initial
      [.parse 0, .preset "good" (.bool true)] 0).2 _ rfl
        [.preset "late" .nil, .activate 0] _ rfl).1

end Logline
