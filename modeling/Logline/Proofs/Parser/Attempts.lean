/-
Attempts to activate a parser, and what is run again by the next one.

An activation installs bindings and runs the setups of the addins in their
order. One that fails has still run the setups before the failure, and the
one that failed up to there; it ends without a mark of being done. So the
next activation begins with the first setup again, on the record as it is.
A parse that fails starts over, with a new record. An activation that was
asked for by itself does not.

`attempts` are the attempts made on the present record of a parser, through
any history. Of a kind that could be defined it depends on the kind alone
whether an attempt on a parser that is not activated runs a setup
(`Bound.attempt_none`): the whitelist comes to supported bindings, and there is
an addin. Hence two attempts on one record both run the first setup as soon
as the earlier one ran any and failed, and in no other case (`Tried.apart_iff`).
-/
import Logline.Proofs.Parser.Compilation

namespace Logline

namespace LineParser

-- ========================================================== attempts

/-- The run that a step is, unless it is a compilation. -/
def Step.run? : Step → Option Run
  | .compiled _ => none
  | .ran run => some run

/-- The runs among steps, in order. -/
def runsOf (steps : List Step) : List Run := steps.filterMap Step.run?

theorem runsOf_install (p : LineParser) (bindings : List (String × Receiver))
    (steps : List Step) :
    runsOf (p.installStep bindings :: steps) = runsOf steps := rfl

theorem runsOf_append (steps later : List Step) :
    runsOf (steps ++ later) = runsOf steps ++ runsOf later :=
  List.filterMap_append

/-- An attempt to activate a parser: the setups that it runs, and what it
comes to. -/
structure Attempt where
  setups : List Run
  outcome : Outcome Unit

/-- The attempt of an activation. It runs nothing but setups. -/
def attempt (depth : Nat) (p : LineParser) : Attempt :=
  ⟨runsOf (p.activationSteps depth), (p.activate depth).outcome⟩

/-- No setup is run by both attempts. Setups are told apart by the places of
their addins. -/
def Attempt.Apart (a b : Attempt) : Prop :=
  ∀ place, place < a.setups.length → ¬ place < b.setups.length

/-- Setups are run from the first one on, so two attempts that run any have
that one in common. -/
theorem Attempt.apart_iff {a b : Attempt} :
    a.Apart b ↔ a.setups = [] ∨ b.setups = [] := by
  constructor
  · intro h
    rw [← List.length_eq_zero_iff, ← List.length_eq_zero_iff]
    have hfirst := h 0
    omega
  · rintro (h | h) place ha hb
    · rw [h] at ha
      exact Nat.not_lt_zero _ ha
    · rw [h] at hb
      exact Nat.not_lt_zero _ hb

/-- The attempt that an action makes: a parse makes one too, unless the
line has been parsed already. -/
def attempted (p : LineParser) : Action → List Attempt
  | .activate depth => [p.attempt depth]
  | .parse depth => if p.data.isNone then [p.attempt depth] else []
  | _ => []

/-- The attempts made on the record that a parser works on after a list of
actions, when the given ones were made on the record before. -/
def attemptsFrom (p : LineParser) (sofar : List Attempt) :
    List Action → List Attempt
  | [] => sofar
  | action :: rest =>
    attemptsFrom (p.act action)
      (if p.replaces action then [] else sofar ++ p.attempted action) rest

/-- The attempts made on the present record of a new parser after a list of
actions. -/
def attempts (kind : ParserKind) (line : String) (options : Options)
    (actions : List Action) : List Attempt :=
  (make kind line options).attemptsFrom [] actions

-- ================================================ what an attempt runs

section

variable {depth : Nat} {p q s : LineParser} {steps : List Step}
  {bindings : List (String × Receiver)}

/-- What was installed is there to run code on, and the record is as it
was. -/
theorem runsOf_code (install : p.install bindings = (.ok (), q))
    (code : Code) (journal : List Entry) :
    ∃ run, runsOf (q.codeSteps code journal) = [run]
      ∧ run.code = code ∧ run.start.record = p.record := by
  unfold LineParser.install at install
  have hagain := (p.context.bindAll bindings).compile_again
  rcases hc : (p.context.bindAll bindings).compile with ⟨_ | surface, c⟩
  · rw [hc] at install
    cases install
  · rw [hc] at install hagain
    cases install
    unfold codeSteps
    rw [hagain surface rfl]
    exact ⟨_, rfl, rfl, rfl⟩

/-- Setups are run in the order of the addins, as far as they go. -/
theorem Setups.codes {addins : List Addin} {journal : List Entry}
    {reply : Reply Unit} (h : Setups depth addins p journal steps reply) :
    (runsOf steps).map Run.code <+: addins.map Addin.setup
      ∧ (reply.outcome = .ok () →
        (runsOf steps).map Run.code = addins.map Addin.setup) := by
  induction h with
  | none p journal => exact ⟨List.nil_prefix, fun _ => rfl⟩
  | uncompiled install => exact ⟨List.nil_prefix, nofun⟩
  | @failed addin rest p q s journal journal' cause install run =>
      obtain ⟨first, hfirst, hcode, -⟩ :=
        runsOf_code install addin.setup journal
      refine ⟨?_, nofun⟩
      rw [runsOf_install, hfirst, List.map_singleton, hcode, List.map_cons]
      exact List.prefix_append [addin.setup] _
  | @exhausted addin rest p q s journal journal' install run =>
      obtain ⟨first, hfirst, hcode, -⟩ :=
        runsOf_code install addin.setup journal
      refine ⟨?_, nofun⟩
      rw [runsOf_install, hfirst, List.map_singleton, hcode, List.map_cons]
      exact List.prefix_append [addin.setup] _
  | @next addin rest p q s journal journal' result steps reply install run
      later ih =>
      obtain ⟨first, hfirst, hcode, -⟩ :=
        runsOf_code install addin.setup journal
      rw [runsOf_install, runsOf_append, hfirst, List.map_append,
        List.map_singleton, hcode, List.map_cons, List.singleton_append]
      refine ⟨(List.prefix_cons_inj _).mpr ih.1, fun hok => ?_⟩
      rw [ih.2 hok]

/-- Setups begin with the first one, on the record that is there, unless the
bindings of its addin cannot be installed. -/
theorem Setups.first {addin : Addin} {rest : List Addin}
    {journal : List Entry} {reply : Reply Unit}
    (h : Setups depth (addin :: rest) p journal steps reply) :
    (runsOf steps = [] ∧ ∃ cause q, p.install addin.bindings
        = (.error cause, q))
      ∨ ∃ run later, runsOf steps = run :: later
        ∧ run.start.record = p.record := by
  cases h with
  | uncompiled install => exact .inl ⟨rfl, _, _, install⟩
  | failed install run =>
      obtain ⟨first, hfirst, -, hstart⟩ :=
        runsOf_code install addin.setup journal
      exact .inr ⟨first, [], hfirst, hstart⟩
  | exhausted install run =>
      obtain ⟨first, hfirst, -, hstart⟩ :=
        runsOf_code install addin.setup journal
      exact .inr ⟨first, [], hfirst, hstart⟩
  | @next _ _ _ q _ _ _ _ later _ install run _ =>
      obtain ⟨first, hfirst, -, hstart⟩ :=
        runsOf_code install addin.setup journal
      refine .inr ⟨first, runsOf later, ?_, hstart⟩
      rw [runsOf_install, runsOf_append, hfirst]
      rfl

theorem Setups.start {addins : List Addin} {journal : List Entry}
    {reply : Reply Unit} (h : Setups depth addins p journal steps reply)
    {run : Run} (hrun : (runsOf steps).head? = some run) :
    run.start.record = p.record := by
  cases addins with
  | nil =>
      cases h
      cases hrun
  | cons addin rest =>
      rcases h.first with ⟨hnone, -⟩ | ⟨first, later, hruns, hstart⟩
      · rw [hnone] at hrun
        cases hrun
      · rw [hruns] at hrun
        cases hrun
        exact hstart

/-- What an attempt runs: setups in the order of the addins, from the record
that it finds, and all of them where it succeeds. -/
structure Attempt.Runs (kind : ParserKind) (p : LineParser) (t : Attempt) :
    Prop where
  inOrder : t.setups.map Run.code <+: kind.addins.map Addin.setup
  start : ∀ run, t.setups.head? = some run → run.start.record = p.record
  complete : p.activated = false → t.outcome = .ok () →
    t.setups.map Run.code = kind.addins.map Addin.setup

theorem attempt_runs (depth : Nat) (p : LineParser) :
    (p.attempt depth).Runs p.kind p := by
  have hactive := activate_activation depth p
  unfold attempt
  generalize p.activationSteps depth = steps at hactive
  generalize p.activate depth = reply at hactive
  cases hactive with
  | before done =>
      refine ⟨List.nil_prefix, nofun, fun fresh => ?_⟩
      cases fresh.symm.trans done
  | uncompiled fresh install => exact ⟨List.nil_prefix, nofun, nofun⟩
  | broken fresh install setups unfinished =>
      have hcodes := setups.codes
      rw [(install_keeps install).kind] at hcodes
      refine ⟨hcodes.1, fun run hrun => ?_, fun _ => hcodes.2⟩
      rw [← install_record install]
      exact setups.start hrun
  | finished fresh install setups =>
      have hcodes := setups.codes
      rw [(install_keeps install).kind] at hcodes
      refine ⟨hcodes.1, fun run hrun => ?_, fun _ => hcodes.2⟩
      rw [← install_record install]
      exact setups.start hrun

-- ========================================== whether it runs any setup

/-- Attempts of a kind get as far as a setup: the whitelist can be compiled,
and there is an addin. -/
structure Ready (kind : ParserKind) : Prop where
  whitelist : (OrderedMap.ofList kind.whitelist).All Supports
  addins : kind.addins ≠ []

/-- A parser of a kind that has nothing bound but what the kind binds. -/
structure Bound (kind : ParserKind) (p : LineParser) : Prop where
  same : p.kind = kind
  bindings : ∀ P, kind.Binds P → p.context.bindings.All P

theorem Bound.make (kind : ParserKind) (line : String) (options : Options) :
    Bound kind (make kind line options) :=
  ⟨rfl, fun _ _ => OrderedMap.All.empty⟩

theorem Bound.act {kind : ParserKind} (h : Bound kind p) (action : Action) :
    Bound kind (p.act action) := by
  obtain ⟨rfl, hbindings⟩ := h
  have hkind : (p.act action).kind = p.kind :=
    (act_identity ⟨rfl, rfl, rfl, rfl⟩ action).kind
  exact ⟨hkind, fun P hk => act_bindings action (hbindings P hk) hk⟩

/-- Supported bindings can be added to supported bindings. -/
theorem install_supported (hp : p.context.bindings.All Supports)
    (hb : (OrderedMap.ofList bindings).All Supports) :
    ∃ q, p.install bindings = (.ok (), q) := by
  have hall : (p.context.bindAll bindings).bindings.All Supports := by
    rw [Context.bindAll_bindings]
    exact hp.insertAll hb
  obtain ⟨surface, hc⟩ := Context.compile_supported _ hall
  unfold LineParser.install
  rcases hr : (p.context.bindAll bindings).compile with ⟨result, c⟩
  rw [hr] at hc
  cases hc
  exact ⟨_, rfl⟩

/-- Only what comes to supported bindings can be added. -/
theorem supported_of_install (install : p.install bindings = (.ok (), q)) :
    (OrderedMap.ofList bindings).All Supports := by
  refine Classical.byContradiction fun hbad => ?_
  obtain ⟨_, _, -, -, herror⟩ := p.context.compile_bindAll_error hbad
  unfold LineParser.install at install
  rcases hr : (p.context.bindAll bindings).compile with ⟨result, c⟩
  rw [hr] at herror install
  cases herror
  cases install

/-- Where all bindings can be installed a setup is run, if there is one. -/
theorem Setups.ran {addins : List Addin} {journal : List Entry}
    {reply : Reply Unit} (h : Setups depth addins p journal steps reply)
    (hp : p.context.bindings.All Supports)
    (hb : ∀ addin ∈ addins,
      (OrderedMap.ofList addin.bindings).All Supports) :
    runsOf steps = [] ↔ addins = [] := by
  cases addins with
  | nil =>
      cases h
      exact iff_of_true rfl rfl
  | cons addin rest =>
      rcases h.first with ⟨-, _, _, install⟩ | ⟨first, later, hruns, -⟩
      · obtain ⟨_, hok⟩ := install_supported hp (hb _ (.head _))
        cases install.symm.trans hok
      · rw [hruns]
        exact iff_of_false nofun nofun

/-- Whether an attempt runs a setup is a matter of the kind, and of whether
the parser has been activated before. -/
theorem Bound.attempt_none {kind : ParserKind} (h : Bound kind p)
    (checked : kind.Checked) (depth : Nat) :
    (p.attempt depth).setups = [] ↔ p.activated = true ∨ ¬ Ready kind := by
  obtain ⟨rfl, hbindings⟩ := h
  have hsetups : ∀ {q steps reply}, p.activated = false →
      p.install p.kind.whitelist = (.ok (), q) →
      Setups depth q.kind.addins q [] steps reply →
      (runsOf steps = [] ↔ p.activated = true ∨ ¬ Ready p.kind) := by
    intro q steps reply fresh install setups
    -- the whitelist was compiled, so all bindings of the kind are supported
    have hw := supported_of_install install
    have hk := checked.binds_supported hw
    have hq := install_bindings install (hbindings Supports hk) hk.whitelist
    rw [(install_keeps install).kind] at setups
    rw [setups.ran hq hk.addins]
    constructor
    · exact fun hnone => .inr fun ready => ready.addins hnone
    · rintro (done | idle)
      · cases fresh.symm.trans done
      · exact Classical.byContradiction fun hsome => idle ⟨hw, hsome⟩
  have hactive := activate_activation depth p
  unfold attempt
  generalize p.activationSteps depth = steps at hactive
  generalize p.activate depth = reply at hactive
  cases hactive with
  | before done => exact iff_of_true rfl (.inl done)
  | uncompiled fresh install =>
      refine iff_of_true rfl (.inr fun ready => ?_)
      have hk := checked.binds_supported ready.whitelist
      obtain ⟨_, hok⟩ :=
        install_supported (hbindings Supports hk) hk.whitelist
      cases install.symm.trans hok
  | broken fresh install setups unfinished =>
      simp only [runsOf_install]
      exact hsetups fresh install setups
  | finished fresh install setups =>
      simp only [runsOf_install]
      exact hsetups fresh install setups

/-- Setups do not mark the parser as activated. -/
theorem Setups.activated {addins : List Addin} {journal : List Entry}
    {reply : Reply Unit} (h : Setups depth addins p journal steps reply) :
    reply.parser.activated = p.activated := by
  induction h with
  | none => rfl
  | uncompiled install => rw [install_eq install]
  | failed install run => rw [runCode_eq run, install_eq install]
  | exhausted install run => rw [runCode_eq run, install_eq install]
  | next install run _ ih => rw [ih, runCode_eq run, install_eq install]

/-- An attempt leaves the parser activated just where it succeeds. -/
theorem attempt_outcome (depth : Nat) (p : LineParser) :
    (p.activate depth).parser.activated = true
      ↔ (p.attempt depth).outcome = .ok () := by
  have hactive := activate_activation depth p
  unfold attempt
  generalize p.activationSteps depth = steps at hactive
  generalize p.activate depth = reply at hactive
  cases hactive with
  | before done => exact iff_of_true done rfl
  | uncompiled fresh install =>
      rw [install_eq install]
      exact iff_of_false (by simp [fresh]) nofun
  | broken fresh install setups unfinished =>
      rw [setups.activated, install_eq install, fresh]
      exact iff_of_false nofun unfinished
  | finished fresh install setups => exact iff_of_true rfl rfl

end

-- ================================================= attempts on a record

/-- Attempts that were made one after the other on one record, with whether
the parser had been activated before them and after them. -/
inductive Tried (ready : Prop) : Bool → List Attempt → Bool → Prop where
  | none (activated : Bool) : Tried ready activated [] activated
  | next {before between after : Bool} {t : Attempt} {later : List Attempt}
      (ran : t.setups = [] ↔ before = true ∨ ¬ ready)
      (done : between = true ↔ t.outcome = .ok ())
      (kept : before = true → between = true)
      (rest : Tried ready between later after) :
      Tried ready before (t :: later) after

namespace Tried

variable {ready : Prop} {before between after : Bool}
  {earlier later : List Attempt}

theorem append (h : Tried ready before earlier between)
    (h' : Tried ready between later after) :
    Tried ready before (earlier ++ later) after := by
  induction h with
  | none => exact h'
  | next ran done kept _ ih => exact .next ran done kept (ih h')

/-- Once the parser is activated no attempt runs anything. -/
theorem idle (h : Tried ready before later after)
    (activated : before = true) : ∀ t ∈ later, t.setups = [] := by
  induction h with
  | none => exact nofun
  | next ran done kept _ ih =>
      exact List.forall_mem_cons.mpr
        ⟨ran.mpr (.inl activated), ih (kept activated)⟩

/-- No setup is run by two attempts just where each that is followed by
another ran none or succeeded. -/
theorem apart_iff (h : Tried ready before later after) :
    later.Pairwise Attempt.Apart
      ↔ ∀ t ∈ later.dropLast, t.setups = [] ∨ t.outcome = .ok () := by
  induction h with
  | none => exact iff_of_true .nil nofun
  | @next before between after t later ran done kept rest ih =>
      cases rest with
      | none => exact iff_of_true (List.pairwise_singleton _ _) nofun
      | @next _ _ _ u later ran' done' kept' rest' =>
          have hrest := Tried.next ran' done' kept' rest'
          have hfirst : (∀ v ∈ u :: later, t.Apart v)
              ↔ t.setups = [] ∨ t.outcome = .ok () := by
            constructor
            · -- the attempt after this one tells whether this one failed
              intro h
              rcases Attempt.apart_iff.mp (h u (.head _)) with hnone | hnone
              · exact .inl hnone
              · rcases ran'.mp hnone with hdone | idle
                · exact .inr (done.mp hdone)
                · exact .inl (ran.mpr (.inr idle))
            · intro h v hv
              rw [Attempt.apart_iff]
              rcases h with hnone | hok
              · exact .inl hnone
              · exact .inr (hrest.idle (done.mpr hok) v hv)
          rw [List.pairwise_cons, hfirst, ih, List.dropLast_cons_cons,
            List.forall_mem_cons]

end Tried

section

variable {kind : ParserKind} {p : LineParser} {before : Bool}
  {sofar : List Attempt}

/-- What an action attempts, on a parser that it does not start over. -/
theorem Bound.tried_act (h : Bound kind p) (checked : kind.Checked)
    {action : Action} (hr : p.replaces action = false) :
    Tried (Ready kind) p.activated (p.attempted action)
      (p.act action).activated := by
  cases action with
  | preset name value => exact .none _
  | withCurrent depth code =>
      obtain ⟨record, hact⟩ := act_withCurrent depth p code
      rw [hact]
      exact .none _
  | activate depth =>
      refine .next (h.attempt_none checked depth) (attempt_outcome depth p)
        (fun done => ?_) (.none _)
      show (p.activate depth).parser.activated = true
      unfold activate
      simp only [done, if_true]
  | parse depth =>
      obtain ⟨data, hdata⟩ := Option.isSome_iff_exists.mp
        (Option.isNone_eq_false_iff.mp hr)
      have hact : p.act (.parse depth) = p := by
        unfold LineParser.act parse
        rw [hdata]
      have hnone : p.attempted (.parse depth) = [] := by
        unfold attempted
        rw [hdata]
        rfl
      rw [hact, hnone]
      exact .none _

/-- What is attempted last, by an action that may start the parser over. -/
theorem Bound.tried_last (h : Bound kind p) (checked : kind.Checked)
    (action : Action) :
    ∃ after, Tried (Ready kind) p.activated (p.attempted action) after := by
  cases hr : p.replaces action with
  | false => exact ⟨_, h.tried_act checked hr⟩
  | true =>
      cases action with
      | parse depth =>
          have hsome : p.attempted (.parse depth) = [p.attempt depth] := by
            unfold attempted
            exact if_pos hr
          rw [hsome]
          refine ⟨_, .next (h.attempt_none checked depth)
            (attempt_outcome depth p) (fun done => ?_) (.none _)⟩
          unfold activate
          simp only [done, if_true]
      | preset name value => cases hr
      | activate depth => cases hr
      | withCurrent depth code => cases hr

/-- Attempts add up, and start anew with each record. -/
theorem Bound.tried_from (h : Bound kind p) (checked : kind.Checked)
    (hsofar : Tried (Ready kind) before sofar p.activated)
    (actions : List Action) :
    Bound kind (p.after actions)
      ∧ ∃ before, Tried (Ready kind) before
        (p.attemptsFrom sofar actions) (p.after actions).activated := by
  induction actions generalizing p before sofar with
  | nil => exact ⟨h, before, hsofar⟩
  | cons action rest ih =>
      unfold attemptsFrom
      cases hr : p.replaces action with
      | true =>
          rw [if_pos rfl]
          exact ih (h.act action) (.none _)
      | false =>
          rw [if_neg nofun]
          exact ih (h.act action) (hsofar.append (h.tried_act checked hr))

end

/-- On no record is a setup run twice, up to a last action, just where every
attempt on it but the last one ran none or succeeded. -/
theorem attempts_apart_iff {kind : ParserKind} (checked : kind.Checked)
    (line : String) (options : Options) (actions : List Action)
    (action : Action) :
    (attempts kind line options actions
        ++ ((make kind line options).after actions).attempted action
      ).Pairwise Attempt.Apart
      ↔ ∀ t ∈ (attempts kind line options actions
          ++ ((make kind line options).after actions).attempted action
        ).dropLast, t.setups = [] ∨ t.outcome = .ok () := by
  obtain ⟨hbound, before, htried⟩ :=
    (Bound.make kind line options).tried_from checked (.none _) actions
  obtain ⟨after, hlast⟩ := hbound.tried_last checked action
  exact (htried.append hlast).apart_iff

end LineParser

end Logline
