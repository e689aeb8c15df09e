/-
Which compilations of a parser succeed.

Every table that a parser ever compiles is written from two sources: the
whitelist of its kind, and the bindings of its addins. What holds of all
that these come to holds of every table (`after_bindings`), through failed
activations, activations on top of those, and restarts.

With what a definition has checked this decides every compilation by the
whitelist alone. If the whitelist comes to supported bindings then no
compilation ever fails. If not then the first one of every activation does,
and nothing that is done with a parser of the kind gets further than that.
-/
import Logline.Proofs.Parser.Definition

namespace Logline

/-- What the whitelist of a kind and the bindings of its addins come to
satisfies `P`. -/
structure ParserKind.Binds (P : String → Receiver → Prop)
    (kind : ParserKind) : Prop where
  whitelist : (OrderedMap.ofList kind.whitelist).All P
  addins : ∀ addin ∈ kind.addins, (OrderedMap.ofList addin.bindings).All P

namespace LineParser

-- ============================================== what a parser has bound

section

variable {P : String → Receiver → Prop} {depth : Nat} {p q s : LineParser}

theorem install_bindings {bindings : List (String × Receiver)}
    {result : Except Error Unit} (h : p.install bindings = (result, q))
    (hp : p.context.bindings.All P) (hb : (OrderedMap.ofList bindings).All P) :
    q.context.bindings.All P := by
  have hq : q = (p.install bindings).2 := by rw [h]
  rw [hq]
  unfold install
  rw [Context.compile_bindings, Context.bindAll_bindings]
  exact hp.insertAll hb

theorem runCode_bindings {code : Code} {journal journal' : List Entry}
    {outcome : Outcome (Option Value)}
    (h : p.runCode depth code journal = ⟨outcome, s, journal'⟩) :
    s.context.bindings = p.context.bindings := by
  have hs : s = (p.runCode depth code journal).parser := by rw [h]
  rw [hs]
  exact Context.run_bindings ..

/-- Installing an addin and running its setup. -/
theorem setup_bindings {addin : Addin} {journal journal' : List Entry}
    {outcome : Outcome (Option Value)}
    (install : p.install addin.bindings = (.ok (), q))
    (run : q.runCode depth addin.setup journal = ⟨outcome, s, journal'⟩)
    (hp : p.context.bindings.All P)
    (hb : (OrderedMap.ofList addin.bindings).All P) :
    s.context.bindings.All P := by
  rw [runCode_bindings run]
  exact install_bindings install hp hb

theorem Setups.bindings {addins : List Addin} {journal : List Entry}
    {steps : List Step} {reply : Reply Unit}
    (h : Setups depth addins p journal steps reply)
    (hp : p.context.bindings.All P)
    (hb : ∀ addin ∈ addins, (OrderedMap.ofList addin.bindings).All P) :
    reply.parser.context.bindings.All P := by
  induction h with
  | none p journal => exact hp
  | uncompiled install => exact install_bindings install hp (hb _ (.head _))
  | failed install run => exact setup_bindings install run hp (hb _ (.head _))
  | exhausted install run =>
      exact setup_bindings install run hp (hb _ (.head _))
  | next install run _ ih =>
      have hs := setup_bindings install run hp (hb _ (.head _))
      exact ih hs fun addin hmem => hb addin (.tail _ hmem)

theorem Activation.bindings {steps : List Step} {reply : Reply Unit}
    (h : Activation depth p steps reply) (hp : p.context.bindings.All P)
    (hk : p.kind.Binds P) : reply.parser.context.bindings.All P := by
  cases h with
  | before done => exact hp
  | uncompiled fresh install => exact install_bindings install hp hk.whitelist
  | broken fresh install setups _ =>
      have hq := install_bindings install hp hk.whitelist
      rw [← (install_keeps install).kind] at hk
      exact setups.bindings hq hk.addins
  | finished fresh install setups =>
      have hq := install_bindings install hp hk.whitelist
      rw [← (install_keeps install).kind] at hk
      exact setups.bindings hq hk.addins

/-- Activating and running the rules. -/
theorem rules_bindings {journal journal' : List Entry}
    {outcome : Outcome (Option Value)}
    (active : p.activate depth = ⟨.ok (), q, journal⟩)
    (rules : q.runCode depth q.kind.rules.code journal
      = ⟨outcome, s, journal'⟩)
    (hp : p.context.bindings.All P) (hk : p.kind.Binds P) :
    s.context.bindings.All P := by
  have hactive := (activate_activation depth p).bindings hp hk
  rw [active] at hactive
  rw [runCode_bindings rules]
  exact hactive

theorem Evaluation.bindings {steps : List Step} {reply : Reply Data}
    (h : Evaluation depth p steps reply) (hp : p.context.bindings.All P)
    (hk : p.kind.Binds P) : reply.parser.context.bindings.All P := by
  have hactive := (activate_activation depth p).bindings hp hk
  cases h with
  | inactive active =>
      rw [active] at hactive
      exact hactive
  | stuck active =>
      rw [active] at hactive
      exact hactive
  | failed active rules => exact rules_bindings active rules hp hk
  | exhausted active rules => exact rules_bindings active rules hp hk
  | violated active rules _ => exact rules_bindings active rules hp hk
  | finished active rules _ =>
      have hs := rules_bindings active rules hp hk
      exact hs

theorem Parsing.bindings {steps : List Step} {reply : Reply Data}
    (h : Parsing depth p steps reply) (hp : p.context.bindings.All P)
    (hk : p.kind.Binds P) : reply.parser.context.bindings.All P := by
  cases h with
  | known known => exact hp
  | parsed unknown evaluation => exact evaluation.bindings hp hk
  | restarted unknown evaluation unparsed => exact OrderedMap.All.empty

theorem act_bindings (action : Action) (hp : p.context.bindings.All P)
    (hk : p.kind.Binds P) : (p.act action).context.bindings.All P := by
  cases action with
  | preset name value => exact hp
  | activate depth => exact (activate_activation depth p).bindings hp hk
  | withCurrent depth code =>
      obtain ⟨record, hact⟩ := act_withCurrent depth p code
      rw [hact]
      exact hp
  | parse depth => exact (parse_parsing depth p).bindings hp hk

/-- Whatever is done with a new parser, what its kind binds is all it has
bound. -/
theorem after_bindings {kind : ParserKind} (hk : kind.Binds P)
    (line : String) (options : Options) (actions : List Action) :
    ((make kind line options).after actions).context.bindings.All P := by
  have hstep : ∀ (p : LineParser) (action : Action),
      p.kind = kind ∧ p.context.bindings.All P →
      (p.act action).kind = kind ∧ (p.act action).context.bindings.All P := by
    rintro p action ⟨rfl, hp⟩
    exact ⟨(act_identity ⟨rfl, rfl, rfl, rfl⟩ action).kind,
      act_bindings action hp hk⟩
  exact (after_invariant hstep ⟨rfl, OrderedMap.All.empty⟩ actions).2

end

-- ============================================ compilations that succeed

/-- A step is not a compilation that failed. -/
def Step.Compiles : Step → Prop
  | .compiled result => ∃ surface, result = .ok surface
  | .ran _ => True

section

variable {depth : Nat} {p q s : LineParser} {steps : List Step}

theorem installStep_compiles {bindings : List (String × Receiver)}
    (hp : p.context.bindings.All Supports)
    (hb : (OrderedMap.ofList bindings).All Supports) :
    (p.installStep bindings).Compiles := by
  refine Context.compile_supported _ ?_
  rw [Context.bindAll_bindings]
  exact hp.insertAll hb

theorem codeSteps_compile {code : Code} {journal : List Entry} :
    ∀ step ∈ p.codeSteps code journal, step.Compiles := by
  unfold codeSteps
  intro step hstep
  rcases hc : p.context.compile.1 with _ | surface
  · rw [hc] at hstep
    cases hstep
  · rw [hc] at hstep
    rw [List.mem_singleton.mp hstep]
    trivial

theorem Setups.compile {addins : List Addin} {journal : List Entry}
    {reply : Reply Unit} (h : Setups depth addins p journal steps reply)
    (hp : p.context.bindings.All Supports)
    (hb : ∀ addin ∈ addins,
      (OrderedMap.ofList addin.bindings).All Supports) :
    ∀ step ∈ steps, step.Compiles := by
  induction h with
  | none p journal => exact fun _ hstep => nomatch hstep
  | uncompiled install =>
      have hfirst := installStep_compiles hp (hb _ (.head _))
      exact List.forall_mem_cons.mpr ⟨hfirst, fun _ hstep => nomatch hstep⟩
  | failed install run =>
      have hfirst := installStep_compiles hp (hb _ (.head _))
      exact List.forall_mem_cons.mpr ⟨hfirst, codeSteps_compile⟩
  | exhausted install run =>
      have hfirst := installStep_compiles hp (hb _ (.head _))
      exact List.forall_mem_cons.mpr ⟨hfirst, codeSteps_compile⟩
  | next install run _ ih =>
      have hfirst := installStep_compiles hp (hb _ (.head _))
      have hs := setup_bindings install run hp (hb _ (.head _))
      have hlater := ih hs fun addin hmem => hb addin (.tail _ hmem)
      exact List.forall_mem_cons.mpr ⟨hfirst,
        List.forall_mem_append.mpr ⟨codeSteps_compile, hlater⟩⟩

theorem Activation.compile {reply : Reply Unit}
    (h : Activation depth p steps reply)
    (hp : p.context.bindings.All Supports) (hk : p.kind.Binds Supports) :
    ∀ step ∈ steps, step.Compiles := by
  have hfirst := installStep_compiles hp hk.whitelist
  cases h with
  | before done => exact fun _ hstep => nomatch hstep
  | uncompiled fresh install =>
      exact List.forall_mem_cons.mpr ⟨hfirst, fun _ hstep => nomatch hstep⟩
  | broken fresh install setups _ =>
      have hq := install_bindings install hp hk.whitelist
      rw [← (install_keeps install).kind] at hk
      exact List.forall_mem_cons.mpr ⟨hfirst, setups.compile hq hk.addins⟩
  | finished fresh install setups =>
      have hq := install_bindings install hp hk.whitelist
      rw [← (install_keeps install).kind] at hk
      exact List.forall_mem_cons.mpr ⟨hfirst, setups.compile hq hk.addins⟩

theorem currentSteps_compile {code : Code} :
    ∀ step ∈ p.currentSteps code, step.Compiles := by
  unfold currentSteps
  intro step hstep
  split at hstep
  · rw [List.mem_singleton.mp hstep]
    trivial
  · cases hstep

/-- Of a parser with nothing but supported bindings, no compilation fails,
whatever is done with it. -/
theorem steps_compile (hp : p.context.bindings.All Supports)
    (hk : p.kind.Binds Supports) (action : Action) :
    ∀ step ∈ p.steps action, step.Compiles := by
  have hactive : ∀ depth, ∀ step ∈ p.activationSteps depth, step.Compiles :=
    fun depth => (activate_activation depth p).compile hp hk
  have hparse : ∀ depth, ∀ step ∈ p.parseSteps depth, step.Compiles := by
    intro depth
    unfold parseSteps evaluationSteps
    cases p.data with
    | some data => exact fun _ hstep => nomatch hstep
    | none =>
        refine List.forall_mem_append.mpr ⟨hactive depth, ?_⟩
        rcases p.activate depth with ⟨_ | _ | _, q, journal⟩
        · exact codeSteps_compile
        · exact fun _ hstep => nomatch hstep
        · exact fun _ hstep => nomatch hstep
  cases action with
  | preset name value => exact fun _ hstep => nomatch hstep
  | activate depth => exact hactive depth
  | withCurrent depth code => exact currentSteps_compile
  | parse depth => exact hparse depth

end

-- ================================================ compilations that fail

section

variable {depth : Nat} {p : LineParser}

/-- What is found in a table over the whitelist was bound by the whitelist,
unless it is supported. -/
def OfWhitelist (kind : ParserKind) (operation : String)
    (receiver : Receiver) : Prop :=
  (OrderedMap.ofList kind.whitelist).find? operation = some receiver
    ∨ Supports operation receiver

/-- Why no parser of a kind is activated: a binding that its whitelist comes
to and that is not supported. -/
structure Culprit (kind : ParserKind) (operation : String)
    (receiver : Receiver) : Prop where
  bound : (OrderedMap.ofList kind.whitelist).find? operation = some receiver
  unsupported : ¬ Supports operation receiver

/-- Where the whitelist comes to a binding that is not supported, a parser
that has not been activated compiles once, and that is all it does. -/
theorem activate_unsupported (depth : Nat) (fresh : p.activated = false)
    (hp : p.context.bindings.All (OfWhitelist p.kind))
    (hw : ¬ (OrderedMap.ofList p.kind.whitelist).All Supports) :
    ∃ operation receiver, Culprit p.kind operation receiver
      ∧ p.activationSteps depth
        = [.compiled (.error (unsupported operation receiver))]
      ∧ (p.activate depth).outcome = .failed (unsupported operation receiver)
      ∧ (p.activate depth).parser.activated = false := by
  obtain ⟨operation, receiver, hfound, hbad, herror⟩ :=
    p.context.compile_bindAll_error hw
  -- what an earlier activation left bound is no excuse: the whitelist is
  -- written over it
  have hculprit : Culprit p.kind operation receiver := by
    have hlist : (OrderedMap.ofList p.kind.whitelist).All
        (OfWhitelist p.kind) := fun _ _ h => Or.inl h
    have hall := hp.insertAll hlist operation receiver hfound
    exact ⟨hall.resolve_right hbad, hbad⟩
  refine ⟨operation, receiver, hculprit, ?_⟩
  rcases hi : p.install p.kind.whitelist with ⟨result, q⟩
  have hresult : result = .error (unsupported operation receiver) := by
    have hfirst : (p.install p.kind.whitelist).1
        = (p.context.bindAll p.kind.whitelist).compile.1.map fun _ => () := rfl
    rw [hi, herror] at hfirst
    exact hfirst
  have hstep : p.installStep p.kind.whitelist
      = .compiled (.error (unsupported operation receiver)) := by
    unfold installStep
    rw [herror]
  have hq : q.activated = p.activated := by
    cases hi
    rfl
  unfold activationSteps activate
  simp only [fresh, hi, hresult, hstep, hq, Bool.false_eq_true, if_false,
    and_self]

/-- A parse of such a parser does no more than that, and leaves a parser
that has not been activated. -/
theorem parse_unsupported (depth : Nat) (unparsed : p.data = none)
    (fresh : p.activated = false)
    (hp : p.context.bindings.All (OfWhitelist p.kind))
    (hw : ¬ (OrderedMap.ofList p.kind.whitelist).All Supports) :
    ∃ operation receiver, Culprit p.kind operation receiver
      ∧ (p.activate depth).outcome = .failed (unsupported operation receiver)
      ∧ p.parseSteps depth
        = [.compiled (.error (unsupported operation receiver))]
      ∧ (p.parse depth).outcome = .failed (unsupported operation receiver)
      ∧ (p.parse depth).parser.activated = false := by
  obtain ⟨operation, receiver, hculprit, hsteps, houtcome, -⟩ :=
    activate_unsupported depth fresh hp hw
  refine ⟨operation, receiver, hculprit, houtcome, ?_⟩
  rcases ha : p.activate depth with ⟨outcome, q, journal⟩
  rw [ha] at houtcome
  dsimp only at houtcome
  unfold parseSteps evaluationSteps parse evaluate
  simp only [unparsed, ha, houtcome, hsteps, List.append_nil, reset, and_self]

/-- A parser of such a kind before anything that could get further. -/
structure Stuck (kind : ParserKind) (p : LineParser) : Prop where
  same : p.kind = kind
  fresh : p.activated = false
  unparsed : p.data = none
  bound : p.context.bindings.All (OfWhitelist kind)

theorem Stuck.act {kind : ParserKind} (hk : kind.Binds (OfWhitelist kind))
    (hw : ¬ (OrderedMap.ofList kind.whitelist).All Supports)
    (h : Stuck kind p) (action : Action) : Stuck kind (p.act action) := by
  -- neither presets nor runs on the current surface install anything, and
  -- the other two fail on the whitelist
  obtain ⟨rfl, hfresh, hunparsed, hbound⟩ := h
  have hkind : (p.act action).kind = p.kind :=
    (act_identity ⟨rfl, rfl, rfl, rfl⟩ action).kind
  have hbound' := act_bindings action hbound hk
  cases action with
  | preset name value => exact ⟨hkind, hfresh, hunparsed, hbound'⟩
  | activate depth =>
      obtain ⟨_, _, -, -, -, hfresh'⟩ :=
        activate_unsupported depth hfresh hbound hw
      have hdata := (activate_keeps depth p).data
      exact ⟨hkind, hfresh', hdata.trans hunparsed, hbound'⟩
  | withCurrent depth code =>
      obtain ⟨record, hact⟩ := act_withCurrent depth p code
      rw [hact]
      exact ⟨rfl, hfresh, hunparsed, hbound⟩
  | parse depth =>
      obtain ⟨_, _, -, -, -, houtcome, hfresh'⟩ :=
        parse_unsupported depth hunparsed hfresh hbound hw
      have hdata := (parse_parsing depth p).data
      rw [houtcome] at hdata
      exact ⟨hkind, hfresh', hdata, hbound'⟩

end

end LineParser

-- ===================================================== what is checked

open LineParser

namespace ParserKind

/-- The bindings of a kind that has been checked are supported, but for
those that its whitelist comes to. -/
theorem Checked.binds {kind : ParserKind} (h : kind.Checked) :
    kind.Binds (OfWhitelist kind) where
  whitelist _ _ hfound := .inl hfound
  addins addin hmem :=
    .ofList fun b hb => .inr (h.addins addin hmem b hb)

/-- With a whitelist that is supported too, all of them are. -/
theorem Checked.binds_supported {kind : ParserKind} (h : kind.Checked)
    (hw : (OrderedMap.ofList kind.whitelist).All Supports) :
    kind.Binds Supports where
  whitelist := hw
  addins addin hmem := .ofList fun b hb => h.addins addin hmem b hb

end ParserKind

/-- Of a kind that could be defined, no compilation ever fails just where
what its whitelist comes to is supported. Otherwise an addin replaces what
is not, and every activation and every parse fails for it before any code
is run, with what should have been the error of the definition. -/
theorem define_compiles_iff {b : Blueprint} {kind : ParserKind}
    (defined : ParserKind.define b = .ok kind) :
    ((OrderedMap.ofList kind.whitelist).All Supports
      ↔ ∀ line options actions action,
        ∀ step ∈ ((make kind line options).after actions).steps action,
          step.Compiles)
    ∧ (¬ (OrderedMap.ofList kind.whitelist).All Supports →
      ∀ line options actions depth, ∃ operation receiver,
        Culprit kind operation receiver
        ∧ (∃ addin ∈ kind.addins, operation ∈ addin.exposes)
        ∧ (((make kind line options).after actions).activate depth).outcome
          = .failed (unsupported operation receiver)
        ∧ (((make kind line options).after actions).parse depth).outcome
          = .failed (unsupported operation receiver)
        ∧ ((make kind line options).after actions).steps (.parse depth)
          = [.compiled (.error (unsupported operation receiver))]) := by
  have checked := ParserKind.define_checked defined
  have hstuck : ¬ (OrderedMap.ofList kind.whitelist).All Supports →
      ∀ line options actions, Stuck kind
        ((make kind line options).after actions) := by
    intro hw line options actions
    exact after_invariant (fun p action h => h.act checked.binds hw action)
      ⟨rfl, rfl, rfl, OrderedMap.All.empty⟩ actions
  refine ⟨⟨?_, ?_⟩, ?_⟩
  · intro hw line options actions action
    have hk := checked.binds_supported hw
    have hbound := after_bindings hk line options actions
    have hkind := (make_identity kind line options actions).kind
    rw [← hkind] at hk
    exact steps_compile hbound hk action
  · intro hall
    refine Classical.byContradiction fun hw => ?_
    obtain ⟨_, hfresh, _, hbound⟩ := hstuck hw "" .initial []
    obtain ⟨_, _, -, hsteps, -⟩ := activate_unsupported 0 hfresh hbound hw
    have hfails := hall "" .initial [] (.activate 0) _
      (hsteps ▸ List.mem_singleton.mpr rfl)
    obtain ⟨_, hok⟩ := hfails
    cases hok
  · intro hw line options actions depth
    have h := hstuck hw line options actions
    generalize (make kind line options).after actions = p at h
    obtain ⟨rfl, hfresh, hunparsed, hbound⟩ := h
    obtain ⟨operation, receiver, hculprit, hactive, hsteps, houtcome, -⟩ :=
      parse_unsupported depth hunparsed hfresh hbound hw
    exact ⟨operation, receiver, hculprit,
      checked.replaced hculprit.bound hculprit.unsupported,
      hactive, houtcome, hsteps⟩

/-- Helpers without any operation. -/
def helpers : Receiver := Operations.receiver ⟨"helpers", .empty⟩

/-- A kind that binds an operation to the helpers, which an addin then
replaces. -/
def replacing : Blueprint where
  name := "replacing"
  whitelist := [("parse_time", helpers)]
  addins := [.name "date_time"]
  registry := .builtin
  presets := []
  rules := []

/-- The kind can be defined although its first compilation fails. -/
theorem define_replacing :
    ¬ ∀ b kind, ParserKind.define b = .ok kind →
      ∀ line options actions action,
      ∀ step ∈ ((make kind line options).after actions).steps action,
        step.Compiles := by
  intro h
  have hstep := h replacing _ rfl "x" .initial [] (.activate 0) _ (.head _)
  obtain ⟨surface, hsurface⟩ := hstep
  have hfails : (Context.empty.bindAll replacing.whitelist).compile.1
      = .error (unsupported "parse_time" helpers) := rfl
  have hcompiled : (Context.empty.bindAll replacing.whitelist).compile.1
      = .ok surface := hsurface
  rw [hfails] at hcompiled
  cases hcompiled

/-- Both sides of the condition: a kind that has only the addin, and one
that binds the operation to the helpers too. -/
theorem define_compiles_iff_replacing :
    (∃ kind, ParserKind.define { replacing with whitelist := [] } = .ok kind
      ∧ ∀ step ∈ (make kind "x" .initial).steps (.parse 0), step.Compiles)
    ∧ ∃ kind, ParserKind.define replacing = .ok kind
      ∧ ∃ operation receiver, Culprit kind operation receiver
        ∧ ((make kind "x" .initial).parse 0).outcome
          = .failed (unsupported operation receiver) := by
  refine ⟨⟨_, rfl, ?_⟩, ⟨_, rfl, ?_⟩⟩
  · exact (define_compiles_iff (b := { replacing with whitelist := [] })
      rfl).1.mp OrderedMap.All.empty "x" .initial [] (.parse 0)
  · have hw : ¬ (OrderedMap.ofList replacing.whitelist).All Supports := by
      intro hall
      have hsupports := hall "parse_time" helpers rfl
      cases hsupports
    obtain ⟨operation, receiver, hculprit, -, -, houtcome, -⟩ :=
      (define_compiles_iff (b := replacing) rfl).2 hw "x" .initial [] 0
    exact ⟨operation, receiver, hculprit, houtcome⟩

end Logline
