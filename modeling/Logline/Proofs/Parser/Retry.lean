/-
What an activation that fails leaves to the next one.

It leaves the record as its setups made it, and the bindings of every addin
that it got to. The next activation writes the same bindings over these,
which changes nothing about what the first setup runs on
(`OrderedMap.insertAll_self`). So a failed activation is forgotten where it
ran at most one setup and that one left the record alone: the next one comes
to the first setup on the same record and with the same bindings, and fails
again (`activate_again`).

Past the first setup there is no such thing. What comes after it has made
changes that the first setup then finds: those of the setups to the record,
and in its bindings those of the later addins.
-/
import Logline.Proofs.Parser.Attempts
import Logline.Proofs.Parser.Depth
import Logline.Proofs.Parser.Lifecycle
import Logline.Proofs.Sandbox.Coherence

namespace Logline

namespace LineParser

section

variable {depth : Nat} {p q r s : LineParser} {cause : Error}
  {bindings : List (String × Receiver)} {journal journal' : List Entry}

-- ============================================================ sandboxes

theorem install_context {result : Except Error Unit}
    (install : p.install bindings = (result, q)) :
    q.context = (p.context.bindAll bindings).compile.2 := by
  cases install
  rfl

theorem install_written {result : Except Error Unit}
    (install : p.install bindings = (result, q)) :
    q.context.bindings = p.context.bindings.insertAll bindings := by
  rw [install_context install, Context.compile_bindings,
    Context.bindAll_bindings]

theorem install_coherent {result : Except Error Unit}
    (install : p.install bindings = (result, q))
    (h : p.context.Coherent) : q.context.Coherent := by
  rw [install_context install]
  exact (h.bindAll bindings).act .compile

theorem runCode_coherent {code : Code} {outcome : Outcome (Option Value)}
    (run : p.runCode depth code journal = ⟨outcome, s, journal'⟩)
    (h : p.context.Coherent) : s.context.Coherent := by
  have hs : s = (p.runCode depth code journal).parser := by rw [run]
  rw [hs]
  exact h.act (.run depth p.line p.options.settings code
    ⟨p.record, journal⟩)

/-- What could not be installed cannot be installed again. -/
theorem install_again (h : p.context.Coherent)
    (same : p.context.bindings = .empty)
    (install : p.install bindings = (.error cause, q)) :
    ∃ s, q.install bindings = (.error cause, s) := by
  have hfirst : (p.context.bindAll bindings).compile.1 = .error cause := by
    unfold LineParser.install at install
    rcases hc : (p.context.bindAll bindings).compile with ⟨_ | _, c⟩
    · rw [hc] at install
      cases install
      rfl
    · rw [hc] at install
      cases install
  have hwritten : (q.context.bindAll bindings).bindings
      = (p.context.bindAll bindings).bindings := by
    rw [Context.bindAll_bindings, Context.bindAll_bindings,
      install_written install, same]
    exact OrderedMap.insertAll_self bindings
  have hagain := (h.bindAll bindings).compile_error_same
    ((install_coherent install h).bindAll bindings) hwritten hfirst
  unfold LineParser.install
  rcases hc : (q.context.bindAll bindings).compile with ⟨result, c⟩
  rw [hc] at hagain
  cases hagain
  exact ⟨_, rfl⟩

/-- Two parsers on which the same code comes to the same. -/
structure Alike (p q : LineParser) : Prop where
  line : q.line = p.line
  options : q.options = p.options
  record : q.record = p.record
  bindings : q.context.bindings = p.context.bindings

theorem Alike.runCode (same : Alike p q) (hp : p.context.Coherent)
    (hq : q.context.Coherent) (good : p.context.bindings.All Supports)
    (depth : Nat) (code : Code) (journal : List Entry) :
    (q.runCode depth code journal).outcome
        = (p.runCode depth code journal).outcome
      ∧ (q.runCode depth code journal).journal
        = (p.runCode depth code journal).journal := by
  obtain ⟨hend, hprogress⟩ := hp.run_same hq same.bindings good depth p.line
    p.options.settings code ⟨p.record, journal⟩
  unfold LineParser.runCode
  rw [same.line, same.options, same.record]
  dsimp only
  rw [hend, hprogress]
  exact ⟨rfl, rfl⟩

-- ====================================================== the first setup

/-- The activation of a parser comes to the setup of its first addin on the
parser `r`. -/
structure First (p : LineParser) (addin : Addin) (r : LineParser) : Prop where
  fresh : p.activated = false
  addins : ∃ rest, p.kind.addins = addin :: rest
  reached : ∃ q, p.install p.kind.whitelist = (.ok (), q)
    ∧ q.install addin.bindings = (.ok (), r)

namespace First

variable {addin : Addin} (h : First p addin r)

/-- With supported bindings every activation comes to a setup. -/
theorem of_supported (fresh : p.activated = false)
    (hp : p.context.bindings.All Supports) (hk : p.kind.Binds Supports)
    (addins : ∃ rest, p.kind.addins = addin :: rest) :
    ∃ r, First p addin r := by
  obtain ⟨rest, hrest⟩ := addins
  obtain ⟨q, hw⟩ := install_supported hp hk.whitelist
  have hq := install_bindings hw hp hk.whitelist
  obtain ⟨r, ha⟩ :=
    install_supported hq (hk.addins addin (hrest ▸ .head _))
  exact ⟨r, fresh, ⟨rest, hrest⟩, q, hw, ha⟩

include h

theorem keeps : Keeps p r := by
  obtain ⟨q, hw, ha⟩ := h.reached
  exact (install_keeps hw).trans (install_keeps ha)

theorem record : r.record = p.record := by
  obtain ⟨q, hw, ha⟩ := h.reached
  rw [install_record ha, install_record hw]

theorem activated : r.activated = false := by
  obtain ⟨q, hw, ha⟩ := h.reached
  rw [install_eq ha, install_eq hw]
  exact h.fresh

/-- The bindings of a first setup: whitelist and addin, over what there
was. -/
theorem written : r.context.bindings
    = p.context.bindings.insertAll (p.kind.whitelist ++ addin.bindings) := by
  obtain ⟨q, hw, ha⟩ := h.reached
  rw [install_written ha, install_written hw, OrderedMap.insertAll_append]

theorem coherent (hp : p.context.Coherent) : r.context.Coherent := by
  obtain ⟨q, hw, ha⟩ := h.reached
  exact install_coherent ha (install_coherent hw hp)

/-- The whitelist was compiled, so all bindings of the kind are supported. -/
theorem binds (checked : p.kind.Checked) : p.kind.Binds Supports := by
  obtain ⟨q, hw, ha⟩ := h.reached
  exact checked.binds_supported (supported_of_install hw)

theorem supported (checked : p.kind.Checked)
    (hp : p.context.bindings.All Supports) :
    r.context.bindings.All Supports := by
  have hk := h.binds checked
  obtain ⟨rest, hrest⟩ := h.addins
  obtain ⟨q, hw, ha⟩ := h.reached
  exact install_bindings ha (install_bindings hw hp hk.whitelist)
    (hk.addins addin (hrest ▸ .head _))

theorem failed
    (run : r.runCode depth addin.setup [] = ⟨.failed cause, s, journal⟩) :
    p.activate depth = ⟨.failed cause, s, journal⟩ := by
  obtain ⟨rest, hrest⟩ := h.addins
  obtain ⟨q, hw, ha⟩ := h.reached
  rw [← (install_keeps hw).kind] at hrest
  unfold activate
  simp only [h.fresh, hw, hrest, activateAddins, ha, run,
    Bool.false_eq_true, if_false]

theorem exhausted
    (run : r.runCode depth addin.setup [] = ⟨.exhausted, s, journal⟩) :
    p.activate depth = ⟨.exhausted, s, journal⟩ := by
  obtain ⟨rest, hrest⟩ := h.addins
  obtain ⟨q, hw, ha⟩ := h.reached
  rw [← (install_keeps hw).kind] at hrest
  unfold activate
  simp only [h.fresh, hw, hrest, activateAddins, ha, run,
    Bool.false_eq_true, if_false]

end First

/-- Where setups fail and only one was run it is the first. -/
theorem Setups.only {addins : List Addin} {steps : List Step}
    {reply : Reply Unit} (h : Setups depth addins p journal steps reply)
    (hp : p.context.bindings.All Supports)
    (hb : ∀ addin ∈ addins,
      (OrderedMap.ofList addin.bindings).All Supports)
    (hfailed : reply.outcome = .failed cause)
    (few : (runsOf steps).length ≤ 1) :
    ∃ addin rest r, addins = addin :: rest
      ∧ p.install addin.bindings = (.ok (), r)
      ∧ r.runCode depth addin.setup journal
        = ⟨.failed cause, reply.parser, reply.journal⟩ := by
  cases h with
  | none => cases hfailed
  | exhausted install run => cases hfailed
  | uncompiled install =>
      obtain ⟨_, hok⟩ := install_supported hp (hb _ (.head _))
      cases install.symm.trans hok
  | failed install run =>
      cases hfailed
      exact ⟨_, _, _, rfl, install, run⟩
  | @next addin rest p q s journal journal' result steps reply install run
      later =>
      -- one setup has been run, so no addin is left for one that fails
      obtain ⟨first, hfirst, -⟩ :=
        runsOf_code install addin.setup journal
      rw [runsOf_install, runsOf_append, hfirst, List.length_append,
        List.length_singleton] at few
      have hnone : runsOf steps = [] :=
        List.eq_nil_of_length_eq_zero (by omega)
      have hs := setup_bindings install run hp (hb _ (.head _))
      have hrest : rest = [] := (later.ran hs fun addin hmem =>
        hb addin (.tail _ hmem)).mp hnone
      subst hrest
      cases later
      cases hfailed

-- ==================================================== a second activation

/-- A new parser, or one that was started over. -/
structure Unused (p : LineParser) : Prop where
  context : p.context = .empty
  fresh : p.activated = false

theorem Unused.coherent (h : Unused p) : p.context.Coherent :=
  h.context ▸ .empty

theorem Unused.supported (h : Unused p) :
    p.context.bindings.All Supports := by
  rw [h.context]
  exact OrderedMap.All.empty

/-- After an activation that failed on its first setup and left the record
alone, the next one comes to that setup as the first one did. -/
theorem First.again {addin : Addin} (unused : Unused p)
    (checked : p.kind.Checked) (h : First p addin r)
    (run : r.runCode depth addin.setup [] = ⟨.failed cause, s, journal⟩)
    (same : s.record = p.record) :
    ∃ r', First s addin r' ∧ Alike r r' ∧ r'.context.Coherent := by
  have hskeeps := h.keeps.trans (runCode_keeps run)
  have hsbindings := runCode_bindings run
  have hs : s.activated = false := by
    rw [runCode_eq run]
    exact h.activated
  obtain ⟨r', h'⟩ : ∃ r', First s addin r' := by
    refine First.of_supported hs ?_ ?_ ?_
    · rw [hsbindings]
      exact h.supported checked unused.supported
    · rw [hskeeps.kind]
      exact h.binds checked
    · rw [hskeeps.kind]
      exact h.addins
  -- the second activation writes what is there already
  have hbindings : r'.context.bindings = r.context.bindings := by
    have hr : r.context.bindings
        = .ofList (p.kind.whitelist ++ addin.bindings) := by
      rw [h.written, unused.context]
      rfl
    rw [h'.written, hskeeps.kind, hsbindings, hr, OrderedMap.insertAll_self]
  have hcoherent := runCode_coherent run (h.coherent unused.coherent)
  refine ⟨r', h', ⟨?_, ?_, ?_, hbindings⟩, h'.coherent hcoherent⟩
  · rw [h'.keeps.line, hskeeps.line, h.keeps.line]
  · rw [h'.keeps.options, hskeeps.options, h.keeps.options]
  · rw [h'.record, same, h.record]

/-- Two parsers whose activations, at a given depth, fail in the same way
with the same journal. -/
def FailAlike (depth : Nat) (p q : LineParser) : Prop :=
  ∃ outcome journal, outcome ≠ .ok ()
    ∧ (∃ r, p.activate depth = ⟨outcome, r, journal⟩)
    ∧ ∃ s, q.activate depth = ⟨outcome, s, journal⟩

/-- A whitelist that could not be installed fails again. -/
theorem activate_uninstalled (unused : Unused p)
    (install : p.install p.kind.whitelist = (.error cause, q))
    (depth : Nat) : FailAlike depth p q := by
  have hnone : p.context.bindings = .empty := by rw [unused.context]; rfl
  obtain ⟨s, hs⟩ := install_again unused.coherent hnone install
  rw [← (install_keeps install).kind] at hs
  have hq : q.activated = false := by
    rw [install_eq install]
    exact unused.fresh
  refine ⟨.failed cause, [], nofun, ⟨q, ?_⟩, s, ?_⟩
  · unfold activate
    simp only [unused.fresh, install, Bool.false_eq_true, if_false]
  · unfold activate
    simp only [hq, hs, Bool.false_eq_true, if_false]

/-- A first setup that failed and left the record alone fails again, however
deeply its calls may be nested then. -/
theorem First.fails_again {addin : Addin} (unused : Unused p)
    (checked : p.kind.Checked) (h : First p addin r)
    (run : r.runCode depth addin.setup [] = ⟨.failed cause, s, journal⟩)
    (same : s.record = p.record) (deeper : Nat) : FailAlike deeper p s := by
  obtain ⟨r', h', halike, hr'⟩ := h.again unused checked run same
  obtain ⟨hend, hjournal⟩ :=
    halike.runCode (h.coherent unused.coherent) hr'
      (h.supported checked unused.supported) deeper addin.setup []
  have hnever := runCode_failed depth r (by rw [run]) deeper
  rcases hrun' : r'.runCode deeper addin.setup [] with ⟨result', t', written'⟩
  rw [hrun'] at hend hjournal
  rcases hrun : r.runCode deeper addin.setup []
    with ⟨result | cause' | _, t, written⟩
  · exact absurd (by rw [hrun]) (hnever result)
  · rw [hrun] at hend hjournal
    cases hend
    cases hjournal
    exact ⟨.failed cause', _, nofun, ⟨t, h.failed hrun⟩,
      t', h'.failed hrun'⟩
  · rw [hrun] at hend hjournal
    cases hend
    cases hjournal
    exact ⟨.exhausted, _, nofun, ⟨t, h.exhausted hrun⟩,
      t', h'.exhausted hrun'⟩

/-- Where a failed activation ran at most one setup and left the record
alone, the next one fails as the activation of a new parser would. -/
theorem activate_again (unused : Unused p) (checked : p.kind.Checked)
    (failed : (p.activate depth).outcome = .failed cause)
    (few : (p.attempt depth).setups.length ≤ 1)
    (same : (p.activate depth).parser.record = p.record) (deeper : Nat) :
    FailAlike deeper p (p.activate depth).parser := by
  have hactive := activate_activation depth p
  unfold attempt at few
  generalize p.activationSteps depth = steps at hactive few
  rcases hreply : p.activate depth with ⟨outcome, s, journal⟩
  rw [hreply] at hactive failed same
  dsimp only at failed same ⊢
  subst failed
  cases hactive with
  | uncompiled fresh install =>
      exact activate_uninstalled unused install deeper
  | @broken q steps _ fresh install setups unfinished =>
      have hk := checked.binds_supported (supported_of_install install)
      have hq := install_bindings install unused.supported hk.whitelist
      rw [(install_keeps install).kind] at setups
      obtain ⟨addin, rest, r, hrest, ha, hrun⟩ :=
        setups.only hq hk.addins rfl few
      have hfirst : First p addin r :=
        ⟨fresh, ⟨rest, hrest⟩, q, install, ha⟩
      exact hfirst.fails_again unused checked hrun same deeper

/-- Parses whose activations fail in the same way are the same, since the
parsers start over. -/
theorem parse_inactive {kind : ParserKind} {line : String}
    {options : Options} {presets : List (Key × Value)}
    {outcome : Outcome Unit} (bad : outcome ≠ .ok ())
    (hp : p.Identity kind line options presets) (unparsed : p.data = none)
    (hq : q.Identity kind line options presets) (unparsed' : q.data = none)
    (active : p.activate depth = ⟨outcome, r, journal⟩)
    (active' : q.activate depth = ⟨outcome, s, journal⟩) :
    q.parse depth = p.parse depth := by
  have hreset : ∀ {p r : LineParser},
      p.Identity kind line options presets → p.data = none →
      p.activate depth = ⟨outcome, r, journal⟩ →
      r.reset = untouched kind line options presets := by
    intro p r hp unparsed active
    have hkeeps := activate_keeps depth p
    rw [active] at hkeeps
    exact reset_untouched (hp.of_keeps hkeeps) (hkeeps.data.trans unparsed)
  unfold parse evaluate
  simp only [unparsed, unparsed', active, active']
  cases outcome with
  | ok result => exact absurd rfl bad
  | failed cause =>
      dsimp only
      rw [hreset hp unparsed active, hreset hq unparsed' active']
  | exhausted =>
      dsimp only
      rw [hreset hp unparsed active, hreset hq unparsed' active']

end

/-- A failed activation of a parser with presets of its own is forgotten by
the next parse, where it ran at most one setup and left the record alone. -/
theorem parse_after_failure {kind : ParserKind} (checked : kind.Checked)
    (line : String) (options : Options) (given : List (String × Value))
    {depth : Nat} {cause : Error}
    (failed : (((make kind line options).presetAll given).activate depth
      ).outcome = .failed cause)
    (few : (((make kind line options).presetAll given).attempt depth
      ).setups.length ≤ 1)
    (same : (((make kind line options).presetAll given).activate depth
      ).parser.record = ((make kind line options).presetAll given).record)
    (deeper : Nat) :
    (((make kind line options).presetAll given).activate depth
      ).parser.parse deeper
      = ((make kind line options).presetAll given).parse deeper := by
  rw [presetAll_make] at failed few same ⊢
  generalize hp : untouched kind line options (keyed given) = p at *
  have hidentity : p.Identity kind line options (keyed given) :=
    hp ▸ ⟨rfl, rfl, rfl, rfl⟩
  have hkeeps := activate_keeps depth p
  obtain ⟨outcome, journal, hbad, ⟨q, hq⟩, s, hs⟩ :=
    activate_again (hp ▸ ⟨rfl, rfl⟩) (hp ▸ checked) failed few same deeper
  have hunparsed : p.data = none := by rw [← hp]; rfl
  exact parse_inactive hbad hidentity hunparsed
    (hidentity.of_keeps hkeeps) (hkeeps.data.trans hunparsed) hq hs

end LineParser

-- ===================================================== setups run again

open LineParser

/-- Of a kind that could be defined:

- an attempt runs setups in the order of the addins, the first one on the
  record that it finds, and all of them where it succeeds;
- no setup is run twice on a record just where every attempt on it but the
  last ran none or succeeded;
- an activation of a new parser that fails is forgotten by the next parse
  where it ran at most one setup and left the record alone. -/
theorem setups_once_iff {b : Blueprint} {kind : ParserKind}
    (defined : ParserKind.define b = .ok kind) :
    (∀ line options actions depth,
      (((make kind line options).after actions).attempt depth).Runs kind
        ((make kind line options).after actions))
    ∧ (∀ line options actions action,
      (attempts kind line options actions
          ++ ((make kind line options).after actions).attempted action
        ).Pairwise Attempt.Apart
        ↔ ∀ t ∈ (attempts kind line options actions
            ++ ((make kind line options).after actions).attempted action
          ).dropLast, t.setups = [] ∨ t.outcome = .ok ())
    ∧ ∀ line options given depth cause,
      (((make kind line options).presetAll given).activate depth).outcome
        = .failed cause →
      (((make kind line options).presetAll given).attempt depth
        ).setups.length ≤ 1 →
      (((make kind line options).presetAll given).activate depth
        ).parser.record
        = ((make kind line options).presetAll given).record →
      ∀ deeper,
        (((make kind line options).presetAll given).activate depth
          ).parser.parse deeper
          = ((make kind line options).presetAll given).parse deeper := by
  have checked := ParserKind.define_checked defined
  refine ⟨?_, attempts_apart_iff checked, ?_⟩
  · intro line options actions depth
    have hkind := (make_identity kind line options actions).kind
    have hruns := attempt_runs depth ((make kind line options).after actions)
    rw [hkind] at hruns
    exact hruns
  · intro line options given depth cause failed few same deeper
    exact parse_after_failure checked line options given failed few same
      deeper

/-- An addin that exposes nothing. -/
def silent (name : String) (setup : Code) : Addin :=
  ⟨name, [], fun _ => false, fun _ _ => .done none, setup⟩

/-- Takes down that it was run, and whether that was again. -/
def counting : Code :=
  .look fun view =>
    .set (if Table.has view.data (.sym "ran") then .sym "again"
      else .sym "ran") (.bool true) (.done none)

/-- Fails the first time that it is run on a record. -/
def reluctant : Code :=
  .look fun view =>
    if Table.has view.data (.sym "seen") then .done none
    else .set (.sym "seen") (.bool true)
      (.fail (.operation "second" "not yet"))

/-- A kind whose second setup fails the first time. -/
def hesitant : Blueprint where
  name := "hesitant"
  whitelist := []
  addins := [.unit (silent "First" counting),
    .unit (silent "Second" reluctant)]
  registry := .builtin
  presets := []
  rules := []

/-- Both sides of the conditions. Of this kind the parse after a failed
activation runs the first setup again; where the setup that fails has left
the record alone, it fails as it would have at once. -/
theorem setups_once_iff_hesitant :
    (∃ kind, ParserKind.define hesitant = .ok kind
      ∧ (attempts kind "x" .initial [.parse 0]
          ++ ((make kind "x" .initial).after [.parse 0]).attempted (.parse 0)
        ).Pairwise Attempt.Apart
      ∧ ¬ (attempts kind "x" .initial [.activate 0]
          ++ ((make kind "x" .initial).after [.activate 0]).attempted
            (.parse 0)).Pairwise Attempt.Apart)
    ∧ ∃ kind, ParserKind.define
        { hesitant with addins := [.unit (silent "Never" (.fail .pattern))] }
        = .ok kind
      ∧ (((make kind "x" .initial).presetAll [("k", .int 1)]).activate 0
          ).parser.parse 0
        = ((make kind "x" .initial).presetAll [("k", .int 1)]).parse 0 := by
  refine ⟨⟨_, rfl, ?_, ?_⟩, ⟨_, rfl, ?_⟩⟩
  · refine ((setups_once_iff (b := hesitant) rfl).2.1 "x" .initial [.parse 0]
      (.parse 0)).mpr fun t ht => ?_
    cases ht
  · intro hapart
    have hgood := ((setups_once_iff (b := hesitant) rfl).2.1 "x" .initial
      [.activate 0] (.parse 0)).mp hapart _ (.head _)
    rcases hgood with hnone | hok
    · cases hnone
    · cases hok
  · exact (setups_once_iff (b := { hesitant with
      addins := [.unit (silent "Never" (.fail .pattern))] }) rfl).2.2 "x"
      .initial [("k", .int 1)] 0 .pattern rfl (Nat.le_refl 1) rfl 0

/-- A failed activation may leave something behind: the parse after it
succeeds where that of a new parser fails, and has run a setup again on the
record that it hands out. -/
theorem setups_run_again :
    (¬ ∀ b kind, ParserKind.define b = .ok kind →
      ∀ line options given depth cause,
        (((make kind line options).presetAll given).activate depth).outcome
          = .failed cause →
        ((((make kind line options).presetAll given).activate depth
          ).parser.parse depth).outcome
          = (((make kind line options).presetAll given).parse depth).outcome)
    ∧ ¬ ∀ b kind, ParserKind.define b = .ok kind →
      ∀ line options actions action,
        (attempts kind line options actions
          ++ ((make kind line options).after actions).attempted action
        ).Pairwise Attempt.Apart := by
  constructor
  · intro h
    have hsame := h hesitant _ rfl "x" .initial [] 0 _ rfl
    have hends := congrArg Outcome.ctorIdx hsame
    exact absurd hends (by decide +kernel)
  · intro h
    have hapart := h hesitant _ rfl "x" .initial [.activate 0] (.parse 0)
    have hfirst := (List.pairwise_cons.mp hapart).1 _ (.head _) 0
    exact hfirst (by decide) (by decide)

end Logline
