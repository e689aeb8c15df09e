/-
What code may call at each stage of a parse.

A parser binds the whitelist of its kind first, and then addin by addin what
the addin exposes. Each setup runs between, so it runs on what was bound up
to its own addin: neither more, since the addins behind it have not been
installed, nor less, since a surface is made again after every change. The
rules run on all of it.

# What carries the induction

`Written pairs p` says that a parser has bound what a list of pairs comes
to, and nothing else, and that its context can make a surface of that. An
installation appends its pairs (`Written.install`), a run changes nothing
(`Written.runCode`), and the surface that code gets is that of the pairs so
far (`Written.codeSteps`). The stages of a parse are then read off the ways
of an activation (`Setups.stages`).

What a list of pairs comes to under a name is its last pair with that name
(`OrderedMap.find?_ofList`), so a name that is bound again and again goes to
the receiver that was bound last.

What is run is read off the steps of a parser, and its calls off the moments
of the run. That these are the steps it goes through and the moments of its
own runs is said beside them (`Stepped`, `Run.Offers`).
-/
import Logline.Proofs.Parser.Retry

namespace Logline

namespace LineParser

-- ================================================= the steps of a parser

/-- The steps that are told of a parser are its own: it goes through them when
it is activated and when it parses its line, and the run that is told of
where it runs code is what it makes of the code. -/
structure Stepped (depth : Nat) (p : LineParser) : Prop where
  activation : Activation depth p (p.activationSteps depth) (p.activate depth)
  parsing : Parsing depth p (p.parseSteps depth) (p.parse depth)
  made : ∀ (code : Code) (journal : List Entry) (run : Run),
    p.codeSteps code journal = [.ran run] → run.Made depth p code journal

theorem stepped (depth : Nat) (p : LineParser) : p.Stepped depth where
  activation := activate_activation depth p
  parsing := parse_parsing depth p
  made _ _ _ := made_of_codeSteps

-- ==================================================== what a run offers

/-- What a run offers to its code, when pairs have been bound in the given
order. -/
structure Run.Offers (depth : Nat) (bindings : List (String × Receiver))
    (run : Run) : Prop where
  /-- The moments are those of the run itself. -/
  traced : (run.code.trace depth run.scope run.start).2
    = run.code.run depth run.scope run.start
  path : Path run.start.record (run.moments depth)
    (run.code.run depth run.scope run.start).2.record
  /-- The operations that code may call are those that are bound. -/
  callable : ∀ operation, run.scope.surface.allows operation = true
    ↔ operation ∈ Entries.keys bindings
  /-- They are forwarded to the receiver that was bound last. -/
  forwarded : ∀ operation, run.scope.surface.receiver? operation
    = Entries.find? operation bindings.reverse
  /-- So was every call that was entered in the run, however deep. -/
  entered : ∀ operation args receiver before,
    ⟨.entered operation args receiver, before⟩ ∈ run.moments depth →
    Entries.find? operation bindings.reverse = some receiver
  /-- None that was refused is bound. -/
  refused : ∀ operation args before,
    ⟨.refused operation args, before⟩ ∈ run.moments depth →
    operation ∉ Entries.keys bindings

/-- All of this is a matter of the bindings of the surface. -/
theorem Run.offers {run : Run} {bindings : List (String × Receiver)}
    (h : run.scope.surface.bindings = .ofList bindings) (depth : Nat) :
    run.Offers depth bindings := by
  have hkeys : ∀ operation,
      run.scope.surface.bindings.contains operation = true
        ↔ operation ∈ Entries.keys bindings := by
    intro operation
    have hempty : operation ∉ (OrderedMap.empty : Bindings).keys := nofun
    rw [h, OrderedMap.contains_iff]
    exact OrderedMap.mem_keys_insertAll.trans (or_iff_right hempty)
  have hlast : ∀ operation, run.scope.surface.receiver? operation
      = Entries.find? operation bindings.reverse := by
    intro operation
    unfold Surface.receiver?
    rw [h, OrderedMap.find?_ofList]
  have hanswered := run.code.trace_answered depth run.scope run.start
  refine ⟨run.code.trace_run depth run.scope run.start,
    run.code.trace_path depth run.scope run.start, hkeys, hlast,
    fun operation args receiver before hm => ?_,
    fun operation args before hm hkey => ?_⟩
  · rw [← hlast]
    exact hanswered _ hm
  · have hnone : run.scope.surface.receiver? operation = none :=
      hanswered _ hm
    have hthere := (hkeys operation).mpr hkey
    unfold OrderedMap.contains at hthere
    unfold Surface.receiver? at hnone
    rw [hnone] at hthere
    cases hthere

-- ================================================== what has been bound

/-- A parser that has bound what the pairs come to, and nothing else. -/
structure Written (bindings : List (String × Receiver)) (p : LineParser) :
    Prop where
  coherent : p.context.Coherent
  bindings : p.context.bindings = .ofList bindings
  supported : p.context.bindings.All Supports

section

variable {depth : Nat} {p q s : LineParser} {journal journal' : List Entry}
  {before bindings : List (String × Receiver)}

theorem Unused.written (h : Unused p) : Written [] p where
  coherent := h.coherent
  bindings := by
    rw [h.context]
    rfl
  supported := h.supported

/-- An installation appends its pairs. -/
theorem Written.install (h : Written before p)
    (install : p.install bindings = (.ok (), q)) :
    Written (before ++ bindings) q where
  coherent := install_coherent install h.coherent
  bindings := by
    rw [install_written install, h.bindings, OrderedMap.ofList_append]
  supported :=
    install_bindings install h.supported (supported_of_install install)

/-- A run leaves them alone. -/
theorem Written.runCode (h : Written bindings p) {code : Code}
    {outcome : Outcome (Option Value)}
    (run : p.runCode depth code journal = ⟨outcome, s, journal'⟩) :
    Written bindings s where
  coherent := runCode_coherent run h.coherent
  bindings := (runCode_bindings run).trans h.bindings
  supported := by
    rw [runCode_bindings run]
    exact h.supported

/-- Code that is run gets the surface of the pairs. -/
theorem Written.codeSteps (h : Written bindings p) (code : Code)
    (journal : List Entry) :
    ∃ run : Run, p.codeSteps code journal = [.ran run] ∧ run.code = code
      ∧ run.scope.surface.bindings = .ofList bindings := by
  obtain ⟨surface, hc⟩ := p.context.compile_supported h.supported
  have hsurface := h.coherent.compile_ok hc
  refine ⟨⟨⟨surface, p.line, p.options.settings⟩, code,
    ⟨p.record, journal⟩⟩, ?_, rfl, ?_⟩
  · unfold LineParser.codeSteps
    rw [hc]
  · dsimp only
    rw [hsurface]
    exact h.bindings

-- ========================================================== the stages

/-- Setups that all succeed are run one for each addin. The surface of each
has what was bound before and the pairs of the addins up to its own. -/
theorem Setups.stages {addins : List Addin} {steps : List Step}
    {reply : Reply Unit} (h : Setups depth addins p journal steps reply)
    (hok : reply.outcome = .ok ()) (hp : Written before p) :
    Written (before ++ addins.flatMap Addin.bindings) reply.parser
      ∧ ∀ (place : Nat) (addin : Addin), addins[place]? = some addin →
        ∃ run : Run, (runsOf steps)[place]? = some run
          ∧ run.code = addin.setup
          ∧ run.scope.surface.bindings = .ofList
            (before ++ (addins.take (place + 1)).flatMap Addin.bindings) := by
  induction h generalizing before with
  | none p journal =>
      rw [List.flatMap_nil, List.append_nil]
      exact ⟨hp, nofun⟩
  | uncompiled install => cases hok
  | failed install run => cases hok
  | exhausted install run => cases hok
  | @next addin rest p q s journal journal' result steps reply install run
      later ih =>
      -- for the addins behind, the pairs of this one were bound before
      have hq := hp.install install
      obtain ⟨hend, hlater⟩ := ih hok (hq.runCode run)
      obtain ⟨first, hfirst, hcode, hsurface⟩ :=
        hq.codeSteps addin.setup journal
      have hruns : runsOf (p.installStep addin.bindings
          :: (q.codeSteps addin.setup journal ++ steps))
          = first :: runsOf steps := by
        rw [runsOf_install, runsOf_append, hfirst]
        rfl
      rw [List.flatMap_cons, ← List.append_assoc, hruns]
      refine ⟨hend, fun place other hother => ?_⟩
      cases place with
      | zero =>
          cases hother
          refine ⟨first, rfl, hcode, ?_⟩
          rw [hsurface, List.take_succ_cons, List.take_zero,
            List.flatMap_singleton]
      | succ place =>
          obtain ⟨run, hrun, hcode', hsurface'⟩ := hlater place other hother
          refine ⟨run, hrun, hcode', ?_⟩
          rw [hsurface', List.take_succ_cons, List.flatMap_cons,
            List.append_assoc]

/-- The same of a whole activation of an unused parser. -/
theorem Unused.stages (h : Unused p)
    (active : (p.activate depth).outcome = .ok ()) :
    Written (ParserKind.allBindings p.kind.whitelist p.kind.addins)
        (p.activate depth).parser
      ∧ ∀ (place : Nat) (addin : Addin), p.kind.addins[place]? = some addin →
        ∃ run : Run, (runsOf (p.activationSteps depth))[place]? = some run
          ∧ run.code = addin.setup
          ∧ run.scope.surface.bindings = .ofList (ParserKind.allBindings
            p.kind.whitelist (p.kind.addins.take (place + 1))) := by
  have hactive := activate_activation depth p
  generalize p.activationSteps depth = steps at hactive ⊢
  generalize p.activate depth = reply at hactive active ⊢
  cases hactive with
  | before done => cases h.fresh.symm.trans done
  | uncompiled fresh install => cases active
  | broken fresh install setups unfinished => exact absurd active unfinished
  | finished fresh install setups =>
      have hstages := setups.stages rfl (h.written.install install)
      rw [(install_keeps install).kind, List.nil_append] at hstages
      obtain ⟨⟨hcoherent, hbindings, hsupported⟩, hruns⟩ := hstages
      exact ⟨⟨hcoherent, hbindings, hsupported⟩, hruns⟩

-- =========================================================== the rules

/-- A parser of a kind that has been activated from scratch and has not
parsed its line. -/
structure Armed (kind : ParserKind) (p : LineParser) : Prop where
  same : p.kind = kind
  activated : p.activated = true
  unparsed : p.data = none
  written : Written (ParserKind.allBindings kind.whitelist kind.addins) p

/-- Whether an action leaves the line unparsed. -/
def Action.quiet : Action → Bool
  | .parse _ => false
  | _ => true

theorem Armed.activate {kind : ParserKind} (h : Armed kind p) (depth : Nat) :
    p.activate depth = ⟨.ok (), p, []⟩ := by
  unfold LineParser.activate
  rw [if_pos h.activated]

/-- Only a parse disarms a parser. -/
theorem Armed.act {kind : ParserKind} (h : Armed kind p) {action : Action}
    (quiet : action.quiet = true) : Armed kind (p.act action) := by
  obtain ⟨rfl, hactivated, hunparsed, ⟨hcoherent, hbindings, hsupported⟩⟩ := h
  cases action with
  | preset name value =>
      exact ⟨rfl, hactivated, hunparsed, hcoherent, hbindings, hsupported⟩
  | activate depth =>
      have hact : p.act (.activate depth) = p := by
        change (p.activate depth).parser = p
        unfold LineParser.activate
        rw [if_pos hactivated]
      rw [hact]
      exact ⟨rfl, hactivated, hunparsed, hcoherent, hbindings, hsupported⟩
  | withCurrent depth code =>
      obtain ⟨record, hact⟩ := act_withCurrent depth p code
      rw [hact]
      exact ⟨rfl, hactivated, hunparsed, hcoherent, hbindings, hsupported⟩
  | parse depth => cases quiet

theorem Armed.after {kind : ParserKind} (h : Armed kind p)
    {actions : List Action}
    (quiet : ∀ action ∈ actions, action.quiet = true) :
    Armed kind (p.after actions) := by
  unfold LineParser.after
  induction actions generalizing p with
  | nil => exact h
  | cons action rest ih =>
      exact ih (h.act (quiet action (.head _)))
        fun later hlater => quiet later (.tail _ hlater)

/-- A run of the rules of a kind, on the table that the definition of the
kind has checked. -/
structure RunsRules (kind : ParserKind) (depth : Nat) (rules : Run) : Prop where
  code : rules.code = kind.rules.code
  offers : rules.Offers depth
    (ParserKind.allBindings kind.whitelist kind.addins)
  checked : ∀ b, ParserKind.define b = .ok kind →
    ∃ addins checked,
      b.addins.mapM (AddinRef.resolve b.registry) = .ok addins
      ∧ (Context.empty.bindAll
          (ParserKind.allBindings b.whitelist addins)).compile.1
        = .ok checked
      ∧ rules.scope.surface.bindings = checked.bindings

/-- An armed parser runs the rules on what all pairs of the kind come to. -/
theorem Armed.rules {kind : ParserKind} (h : Armed kind p) (depth : Nat)
    (journal : List Entry) :
    ∃ rules : Run, p.codeSteps p.kind.rules.code journal = [.ran rules]
      ∧ RunsRules kind depth rules := by
  obtain ⟨rules, hsteps, hcode, hsurface⟩ :=
    h.written.codeSteps p.kind.rules.code journal
  rw [h.same] at hcode
  refine ⟨rules, hsteps, hcode, Run.offers hsurface depth, fun b hdefine => ?_⟩
  obtain ⟨hwhitelist, haddins, ⟨checked, hchecked⟩, -⟩ :=
    ParserKind.define_ok hdefine
  -- both tables are the surface of a context with the same pairs in it
  have htable := (Context.Coherent.empty.bindAll _).compile_ok hchecked
  rw [hwhitelist] at hchecked
  refine ⟨kind.addins, checked, haddins, hchecked, ?_⟩
  rw [hsurface, htable]
  exact (Context.bindAll_bindings Context.empty _).symm

/-- A parse of an armed parser runs the rules and nothing else. -/
theorem Armed.parse {kind : ParserKind} (h : Armed kind p) (depth : Nat) :
    ∃ rules : Run, runsOf (p.parseSteps depth) = [rules]
      ∧ RunsRules kind depth rules := by
  obtain ⟨rules, hsteps, hrules⟩ := h.rules depth []
  refine ⟨rules, ?_, hrules⟩
  unfold parseSteps evaluationSteps activationSteps
  rw [h.unparsed, if_pos h.activated, h.activate]
  dsimp only
  rw [hsteps]
  rfl

end

-- ======================================================== whole parses

/-- Of a new parser that can be activated, each setup may call what the kind
and the addins up to its own have bound, and the rules what the kind and all
addins have bound, whether they run in the parse that activates the parser
or in a later one. A name goes to the receiver that was bound last, and the
rules have the very table that the definition checked. The steps in which all
of this is told are those that parsers go through. -/
theorem stages_offer (kind : ParserKind) (line : String) (options : Options)
    (given : List (String × Value)) (depth : Nat)
    (active : (((make kind line options).presetAll given).activate
      depth).outcome = .ok ()) :
    (∀ depth' p, Stepped depth' p)
    ∧ (runsOf (((make kind line options).presetAll given).activationSteps
      depth)).length = kind.addins.length
    ∧ (∀ (place : Nat) (addin : Addin), kind.addins[place]? = some addin →
      ∃ run : Run, (runsOf (((make kind line options).presetAll
          given).activationSteps depth))[place]? = some run
        ∧ run.code = addin.setup
        ∧ run.Offers depth (ParserKind.allBindings kind.whitelist
          (kind.addins.take (place + 1))))
    ∧ (∃ rules : Run, runsOf (((make kind line options).presetAll
          given).parseSteps depth)
        = runsOf (((make kind line options).presetAll
          given).activationSteps depth) ++ [rules]
      ∧ RunsRules kind depth rules)
    ∧ ∀ later, (∀ action ∈ later, action.quiet = true) →
      ∀ depth', ∃ rules : Run, runsOf ((((make kind line options).presetAll
          given).activate depth).parser.after later |>.parseSteps depth')
        = [rules]
      ∧ RunsRules kind depth' rules := by
  rw [presetAll_make] at active ⊢
  have hkind : (untouched kind line options (keyed given)).kind = kind := rfl
  have hdata : (untouched kind line options (keyed given)).data = none := rfl
  have hunused : Unused (untouched kind line options (keyed given)) :=
    ⟨rfl, rfl⟩
  generalize untouched kind line options (keyed given) = p at *
  obtain ⟨hwritten, hruns⟩ := hunused.stages active
  have hkeeps := activate_keeps depth p
  have hcodes := (attempt_runs depth p).complete hunused.fresh active
  rw [hkind] at hwritten hruns hcodes
  have harmed : Armed kind (p.activate depth).parser :=
    ⟨hkeeps.kind.trans hkind,
      (activate_activation depth p).activated active,
      hkeeps.data.trans hdata, hwritten⟩
  refine ⟨stepped, ?_, ?_, ?_, fun later quiet => (harmed.after quiet).parse⟩
  · have hlength := congrArg List.length hcodes
    rw [List.length_map, List.length_map] at hlength
    exact hlength
  · intro place addin haddin
    obtain ⟨run, hrun, hcode, hsurface⟩ := hruns place addin haddin
    exact ⟨run, hrun, hcode, Run.offers hsurface depth⟩
  · rcases ha : p.activate depth with ⟨outcome, q, journal⟩
    rw [ha] at active harmed
    cases active
    obtain ⟨rules, hsteps, hrules⟩ := harmed.rules depth journal
    refine ⟨rules, ?_, hrules⟩
    unfold parseSteps evaluationSteps
    rw [hdata, ha]
    dsimp only
    rw [runsOf_append, hsteps]
    rfl

/-- A receiver of every operation, which does nothing. -/
def willing (label : String) : Receiver :=
  ⟨label, fun _ => true, fun _ _ => .done none⟩

/-- An addin that exposes one operation, which its setup calls. -/
def calling (name operation : String) : Addin :=
  ⟨name, [operation], fun _ => true, fun _ _ => .done none,
    .call operation [] fun _ => .done none⟩

/-- A kind that binds an operation twice, with an addin that binds it once
more. -/
def overlapping : ParserKind where
  name := "overlapping"
  whitelist := [("part", willing "first"), ("part", willing "second")]
  addins := [calling "Greeter" "greet", calling "Parter" "part"]
  presets := []
  rules := []

/-- The first setup parts with the receiver that the kind binds last, the
rules with that of the second addin. -/
theorem stages_offer_overlapping :
    ParserKind.define ⟨"overlapping", overlapping.whitelist,
      overlapping.addins.map .unit, .builtin, [], []⟩ = .ok overlapping
    ∧ ∃ setup rules : Run,
      (runsOf (((make overlapping "x" .initial).presetAll []).parseSteps
        1)).head? = some setup
      ∧ setup.scope.surface.receiver? "part" = some (willing "second")
      ∧ RunsRules overlapping 1 rules
      ∧ rules.scope.surface.receiver? "part"
        = some (calling "Parter" "part").receiver := by
  refine ⟨rfl, ?_⟩
  obtain ⟨-, -, hsetups, ⟨rules, hruns, hrules⟩, -⟩ :=
    stages_offer overlapping "x" .initial [] 1 rfl
  obtain ⟨setup, hsetup, -, hoffers⟩ := hsetups 0 _ rfl
  refine ⟨setup, rules, ?_, hoffers.forwarded "part", hrules,
    hrules.offers.forwarded "part"⟩
  rw [hruns, List.head?_append, List.head?_eq_getElem?, hsetup]
  rfl

end LineParser

end Logline
