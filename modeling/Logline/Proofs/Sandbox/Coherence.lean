/-
A context never runs code on bindings that it no longer has.

A context caches: the surface compiled last, and the surface that code ran
on last. Both stand for the bindings as they are now, because every change
of the bindings forgets both at once (`Coherent`). That is kept up by each
action on a context and so by all of them (`Coherent.after`), whatever
receivers were bound and however many compilations failed between.

The version counts the changes. It never falls, and while it stays the
bindings do too (`After`), so a surface is told apart from every surface of
other bindings by its version alone. Code cannot tell: of its surface it sees
the bindings and not the version (`Code.run_version`), so in coherent
contexts with the same bindings it does the same (`Coherent.run_same`).

# What a failure leaves behind

A compilation that fails changes nothing, and a run that cannot be compiled
is that and no more: its code is never entered. A run that fails in its
code has been compiled and has run. It keeps what the code did to the
record, and its surface is the current one, as after any other run.
-/
import Logline.Proofs.Sandbox.Bindings

namespace Logline

-- ================================================== what code can see

/-- Code sees the bindings of its surface and not its version. -/
theorem Code.runWith_version
    (enter : Code → Progress → Ending × Progress) (bindings : Bindings)
    (version version' : Nat) (line : String) (settings : Settings)
    (code : Code) :
    ∀ start, code.runWith enter ⟨⟨bindings, version⟩, line, settings⟩ start
      = code.runWith enter ⟨⟨bindings, version'⟩, line, settings⟩ start := by
  induction code with
  | done result => intro start; rfl
  | fail cause => intro start; rfl
  | look next ih => intro start; exact ih _ start
  | set key value next ih => intro start; exact ih _
  | del key next ih => intro start; exact ih _ _
  | stop next ih => intro start; exact ih _
  | note entry next ih => intro start; exact ih _
  | call operation args next ih =>
      intro start
      unfold runWith
      simp only [ih, Surface.receiver?]

theorem Code.run_version (depth : Nat) (bindings : Bindings)
    (version version' : Nat) (line : String) (settings : Settings)
    (code : Code) (start : Progress) :
    code.run depth ⟨⟨bindings, version⟩, line, settings⟩ start
      = code.run depth ⟨⟨bindings, version'⟩, line, settings⟩ start := by
  induction depth generalizing code start with
  | zero => exact runWith_version _ bindings version version' _ _ code start
  | succ depth ih =>
      have hsame : run depth ⟨⟨bindings, version⟩, line, settings⟩
          = run depth ⟨⟨bindings, version'⟩, line, settings⟩ :=
        funext fun code => funext fun start => ih code start
      unfold run
      rw [hsame]
      exact runWith_version _ bindings version version' _ _ code start

namespace Context

-- =========================================================== actions

/-- What can be done with a context. A run starts on a record of its own
choosing, so it says which. -/
inductive Action where
  | bind (operation : String) (receiver : Receiver)
  | unbind (operation : String)
  | invalidate
  | compile
  | run (depth : Nat) (line : String) (settings : Settings) (code : Code)
      (start : Progress)
  | runCurrent (depth : Nat) (line : String) (settings : Settings)
      (code : Code) (start : Progress)

/-- The context after an action. A run on the current surface only reads
it. -/
def act (c : Context) : Action → Context
  | .bind operation receiver => c.bind operation receiver
  | .unbind operation => (c.unbind operation).2
  | .invalidate => c.invalidate
  | .compile => c.compile.2
  | .run depth line settings code start =>
    (c.run depth line settings code start).2.2
  | .runCurrent _ _ _ _ _ => c

/-- The context after a list of actions. -/
def after (c : Context) (actions : List Action) : Context :=
  actions.foldl act c

-- ========================================================= coherence

/-- The surface of the bindings as they stand. -/
def surface (c : Context) : Surface := ⟨c.bindings, c.version⟩

/-- The surfaces that a context holds are the one of its bindings. -/
structure Coherent (c : Context) : Prop where
  compiled : ∀ surface, c.compiled = some surface → surface = c.surface
  /-- A surface is held only where it could be made. -/
  supported : ∀ surface, c.compiled = some surface →
    c.bindings.All Supports
  current : ∀ surface, c.current = some surface →
    c.compiled = some surface

theorem Coherent.empty : Coherent empty := ⟨nofun, nofun, nofun⟩

/-- Where both surfaces are forgotten nothing has to agree. -/
theorem Coherent.invalidate (c : Context) : Coherent c.invalidate :=
  ⟨nofun, nofun, nofun⟩

/-- The ways in which a compilation goes: the bindings are not supported
and nothing changes, or their surface is held from then on. -/
inductive Compilation (c : Context) : Except Error Surface × Context → Prop
  | failed {cause : Error} (bad : ¬ c.bindings.All Supports)
      (none : c.compiled = none) : Compilation c (.error cause, c)
  | made (good : c.bindings.All Supports) :
      Compilation c (.ok c.surface, { c with compiled := some c.surface })

theorem Coherent.compilation {c : Context} (h : Coherent c) :
    Compilation c c.compile := by
  unfold compile
  cases hc : c.compiled with
  | some surface =>
      -- the surface that is handed out again is the one it would make
      have hmade := Compilation.made (h.supported surface hc)
      have hheld : some c.surface = c.compiled := by
        rw [← h.compiled surface hc, hc]
      rw [hheld] at hmade
      rw [h.compiled surface hc]
      exact hmade
  | none =>
      by_cases hall : c.bindings.All Supports
      · have hnone := Surface.firstUnsupported?_none_iff.mpr hall
        simp only [Surface.compile, hnone]
        exact .made hall
      · obtain ⟨operation, receiver, -, -, herror⟩ :=
          Surface.compile_error c.version hall
        simp only [herror]
        exact .failed hall hc

/-- A compilation leaves a coherent context, on which the surface that it
made may become the current one. -/
theorem Coherent.made {c : Context} (h : Coherent c)
    (good : c.bindings.All Supports) :
    Coherent { c with compiled := some c.surface } where
  compiled surface hs := by
    cases hs
    rfl
  supported _ _ := good
  current surface hs := by
    have hcompiled := h.current surface hs
    rw [h.compiled surface hcompiled]

theorem Coherent.entered {c : Context} (good : c.bindings.All Supports) :
    Coherent { c with compiled := some c.surface
                      current := some c.surface } where
  compiled surface hs := by
    cases hs
    rfl
  supported _ _ := good
  current surface hs := hs

/-- The ways in which a run goes: its surface cannot be made and nothing
happens, or its code runs on the surface, which becomes the current one. -/
inductive Running (c : Context) (depth : Nat) (line : String)
    (settings : Settings) (code : Code) (start : Progress) :
    Ending × Progress × Context → Prop
  | refused {cause : Error} (compile : c.compile = (.error cause, c))
      (bad : ¬ c.bindings.All Supports) :
      Running c depth line settings code start (.failed cause, start, c)
  | ran {ending : Ending} {progress : Progress}
      (good : c.bindings.All Supports)
      (run : code.run depth ⟨c.surface, line, settings⟩ start
        = (ending, progress)) :
      Running c depth line settings code start
        (ending, progress,
          { c with compiled := some c.surface, current := some c.surface })

theorem Coherent.running {c : Context} (h : Coherent c) (depth : Nat)
    (line : String) (settings : Settings) (code : Code)
    (start : Progress) :
    Running c depth line settings code start
      (c.run depth line settings code start) := by
  have hcompile := h.compilation
  unfold run
  rcases hc : c.compile with ⟨result, c'⟩
  rw [hc] at hcompile
  cases hcompile with
  | failed bad none => exact .refused hc bad
  | made good => exact .ran good rfl

/-- Each action keeps a context coherent. -/
theorem Coherent.act {c : Context} (h : Coherent c) (action : Action) :
    Coherent (c.act action) := by
  cases action with
  | bind operation receiver => exact .invalidate _
  | unbind operation => exact .invalidate _
  | invalidate => exact .invalidate c
  | compile =>
      have hcompile := h.compilation
      show Coherent c.compile.2
      generalize c.compile = reply at hcompile
      cases hcompile with
      | failed bad none => exact h
      | made good => exact h.made good
  | run depth line settings code start =>
      have hrun := h.running depth line settings code start
      show Coherent (c.run depth line settings code start).2.2
      generalize c.run depth line settings code start = reply at hrun
      cases hrun with
      | refused compile bad => exact h
      | ran good run => exact .entered good
  | runCurrent depth line settings code start => exact h

theorem Coherent.bindAll {c : Context} (h : Coherent c)
    (pairs : List (String × Receiver)) : Coherent (c.bindAll pairs) := by
  unfold Context.bindAll
  induction pairs generalizing c with
  | nil => exact h
  | cons b rest ih => exact ih (.invalidate _)

theorem Coherent.after {c : Context} (h : Coherent c)
    (actions : List Action) : Coherent (c.after actions) := by
  unfold Context.after
  induction actions generalizing c with
  | nil => exact h
  | cons action rest ih => exact ih (h.act action)

/-- Code that re-enters the current surface runs on the bindings as they
stand. -/
theorem Coherent.runCurrent {c : Context} (h : Coherent c)
    {surface : Surface} (hs : c.current = some surface) (depth : Nat)
    (line : String) (settings : Settings) (code : Code)
    (start : Progress) :
    c.runCurrent depth line settings code start
      = (some (code.run depth ⟨c.surface, line, settings⟩ start).1,
        (code.run depth ⟨c.surface, line, settings⟩ start).2) := by
  unfold Context.runCurrent
  rw [hs, h.compiled surface (h.current surface hs)]

-- ========================================================== versions

/-- What becomes of bindings and version: they are left alone, or the
version rises. -/
def After (c c' : Context) : Prop :=
  c'.surface = c.surface ∨ c.version < c'.version

theorem After.trans {c c' c'' : Context} (h : After c c')
    (h' : After c' c'') : After c c'' := by
  unfold After at *
  have hversion : ∀ {a b : Context}, b.surface = a.surface →
      b.version = a.version := fun h => congrArg Surface.version h
  rcases h with hsame | hless <;> rcases h' with hsame' | hless'
  · exact .inl (hsame'.trans hsame)
  · rw [hversion hsame] at hless'
    exact .inr hless'
  · rw [hversion hsame']
    exact .inr hless
  · exact .inr (Nat.lt_trans hless hless')

theorem After.act {c : Context} (h : Coherent c) (action : Action) :
    After c (c.act action) := by
  cases action with
  | bind operation receiver => exact .inr (Nat.lt_succ_self _)
  | unbind operation => exact .inr (Nat.lt_succ_self _)
  | invalidate => exact .inr (Nat.lt_succ_self _)
  | compile =>
      have hcompile := h.compilation
      show After c c.compile.2
      generalize c.compile = reply at hcompile
      cases hcompile with
      | failed bad none => exact .inl rfl
      | made good => exact .inl rfl
  | run depth line settings code start =>
      have hrun := h.running depth line settings code start
      show After c (c.run depth line settings code start).2.2
      generalize c.run depth line settings code start = reply at hrun
      cases hrun with
      | refused compile bad => exact .inl rfl
      | ran good run => exact .inl rfl
  | runCurrent depth line settings code start => exact .inl rfl

theorem After.after {c : Context} (h : Coherent c) (actions : List Action) :
    After c (c.after actions) := by
  unfold Context.after
  induction actions generalizing c with
  | nil => exact .inl rfl
  | cons action rest ih => exact (After.act h action).trans (ih (h.act action))

/-- What becomes of bindings and version is read off their surfaces. -/
theorem After.surfaces {c c' : Context} (h : After c c') :
    c.surface.version ≤ c'.surface.version
      ∧ (c.surface.version = c'.surface.version →
        c.surface.bindings = c'.surface.bindings) := by
  rcases h with hsame | hless
  · rw [hsame]
    exact ⟨Nat.le_refl _, fun _ => rfl⟩
  · exact ⟨Nat.le_of_lt hless, fun heq => absurd heq (Nat.ne_of_lt hless)⟩

-- ====================================================== what is compiled

section

variable {c : Context} (h : Coherent c)

include h

/-- A compilation that succeeds gives the surface of the bindings. -/
theorem Coherent.compile_ok {surface : Surface}
    (hc : c.compile.1 = .ok surface) : surface = c.surface := by
  have hcompile := h.compilation
  generalize c.compile = reply at hcompile hc
  cases hcompile with
  | failed bad none => cases hc
  | made good =>
      cases hc
      rfl

/-- A compilation fails just where a binding is not supported. -/
theorem Coherent.compile_error_iff :
    (∃ cause, c.compile.1 = .error cause) ↔ ¬ c.bindings.All Supports := by
  have hcompile := h.compilation
  generalize c.compile = reply at hcompile
  cases hcompile with
  | failed bad none => exact ⟨fun _ => bad, fun _ => ⟨_, rfl⟩⟩
  | made good =>
      constructor
      · rintro ⟨cause, hcause⟩
        cases hcause
      · exact fun bad => absurd good bad

/-- A compilation that fails changes nothing, and keeps any code from being
run. -/
theorem Coherent.compile_error {cause : Error}
    (hc : c.compile.1 = .error cause) :
    c.compile.2 = c
      ∧ ∀ depth line settings code start,
        c.run depth line settings code start = (.failed cause, start, c) := by
  have hcompile := h.compilation
  rcases hr : c.compile with ⟨result, c'⟩
  rw [hr] at hc hcompile
  cases hc
  cases hcompile
  refine ⟨rfl, fun depth line settings code start => ?_⟩
  unfold Context.run
  rw [hr]

/-- Where the surface can be made the code runs on it, however it ends, and
it becomes the current one. -/
theorem Coherent.run_ok {surface : Surface}
    (hc : c.compile.1 = .ok surface) (depth : Nat) (line : String)
    (settings : Settings) (code : Code) (start : Progress) :
    c.run depth line settings code start
      = ((code.run depth ⟨surface, line, settings⟩ start).1,
        (code.run depth ⟨surface, line, settings⟩ start).2,
        { c with compiled := some surface, current := some surface }) := by
  have hsurface := h.compile_ok hc
  subst hsurface
  have hrun := h.running depth line settings code start
  generalize c.run depth line settings code start = reply at hrun
  cases hrun with
  | refused compile bad =>
      rw [compile] at hc
      cases hc
  | ran good run => rw [run]

end

/-- On the same bindings the same code comes to the same, whatever else was
compiled and run before. -/
theorem Coherent.run_same {c c' : Context} (h : Coherent c)
    (h' : Coherent c') (same : c'.bindings = c.bindings)
    (good : c.bindings.All Supports) (depth : Nat) (line : String)
    (settings : Settings) (code : Code) (start : Progress) :
    (c'.run depth line settings code start).1
        = (c.run depth line settings code start).1
      ∧ (c'.run depth line settings code start).2.1
        = (c.run depth line settings code start).2.1 := by
  have hrun := h.running depth line settings code start
  have hrun' := h'.running depth line settings code start
  generalize c.run depth line settings code start = reply at hrun
  generalize c'.run depth line settings code start = reply' at hrun'
  cases hrun with
  | refused compile bad => exact absurd good bad
  | @ran ending progress good run =>
      cases hrun' with
      | refused compile bad => exact absurd (same ▸ good) bad
      | @ran ending' progress' good' run' =>
          unfold surface at run run'
          rw [same, Code.run_version depth c.bindings c'.version c.version,
            run] at run'
          cases run'
          exact ⟨rfl, rfl⟩

/-- What is wrong with the bindings is found again. -/
theorem Coherent.compile_error_same {c c' : Context} (h : Coherent c)
    (h' : Coherent c') (same : c'.bindings = c.bindings) {cause : Error}
    (hc : c.compile.1 = .error cause) : c'.compile.1 = .error cause := by
  have hbad := h.compile_error_iff.mp ⟨cause, hc⟩
  have hnone : ∀ {c : Context}, Coherent c → ¬ c.bindings.All Supports →
      c.compiled = none := by
    intro c h hbad
    cases hcompiled : c.compiled with
    | none => rfl
    | some surface => exact absurd (h.supported surface hcompiled) hbad
  unfold Context.compile at hc ⊢
  rw [hnone h hbad] at hc
  rw [hnone h' (same ▸ hbad), same]
  unfold Surface.compile at hc ⊢
  cases hfirst : Surface.firstUnsupported? c.bindings with
  | none => simp [hfirst] at hc
  | some b =>
      simp only [hfirst] at hc ⊢
      exact hc

-- ===================================================== whatever is done

/-- Whatever is done with a context, the surfaces that it holds are those
of its bindings; versions tell surfaces of different bindings apart; and
what cannot be compiled is not run. -/
theorem surfaces_coherent (actions : List Action) :
    -- a compiled surface has the bindings and the version as they stand
    (∀ surface, (empty.after actions).compiled = some surface →
      surface.bindings = (empty.after actions).bindings
        ∧ surface.version = (empty.after actions).version
        ∧ surface.bindings.All Supports)
    -- the current surface is the compiled one, so code that re-enters it
    -- runs on the bindings as they stand
    ∧ (∀ surface, (empty.after actions).current = some surface →
      (empty.after actions).compiled = some surface
        ∧ ∀ depth line settings code start,
          (empty.after actions).runCurrent depth line settings code start
            = ((code.run depth ⟨⟨(empty.after actions).bindings,
                (empty.after actions).version⟩, line, settings⟩ start).map
              some id))
    -- a surface compiled later has no smaller version, and the same one
    -- only for the same bindings
    ∧ (∀ later first second,
      (empty.after actions).compile.1 = .ok first →
      ((empty.after actions).after later).compile.1 = .ok second →
      first.version ≤ second.version
        ∧ (first.version = second.version →
          first.bindings = second.bindings))
    -- a compilation fails for bindings that are not supported; it changes
    -- nothing, and nothing is run
    ∧ ((∃ cause, (empty.after actions).compile.1 = .error cause)
      ↔ ¬ (empty.after actions).bindings.All Supports)
    ∧ (∀ cause, (empty.after actions).compile.1 = .error cause →
      (empty.after actions).compile.2 = empty.after actions
        ∧ ∀ depth line settings code start,
          (empty.after actions).run depth line settings code start
            = (.failed cause, start, empty.after actions))
    -- code that is run is run on the compiled surface, which becomes the
    -- current one even where the code fails
    ∧ ∀ surface, (empty.after actions).compile.1 = .ok surface →
      ∀ depth line settings code start,
        (empty.after actions).run depth line settings code start
          = ((code.run depth ⟨surface, line, settings⟩ start).1,
            (code.run depth ⟨surface, line, settings⟩ start).2,
            { empty.after actions with
              compiled := some surface, current := some surface }) := by
  have h := Coherent.empty.after actions
  generalize empty.after actions = c at h
  refine ⟨?_, ?_, ?_, h.compile_error_iff, fun cause => h.compile_error,
    fun surface => h.run_ok⟩
  · intro surface hs
    have hgood := h.supported surface hs
    rw [h.compiled surface hs]
    exact ⟨rfl, rfl, hgood⟩
  · intro surface hs
    exact ⟨h.current surface hs, h.runCurrent hs⟩
  · intro later first second hfirst hsecond
    rw [h.compile_ok hfirst, (h.after later).compile_ok hsecond]
    exact (After.after h later).surfaces

/-- A receiver that greets, and does nothing else. -/
def greeter : Receiver := ⟨"greeter", (· == "greet"), fun _ _ => .done none⟩

/-- Bound for what it can do, and run. -/
def greeting : List Action :=
  [.bind "greet" greeter, .run 0 "x" .empty (.done none) ⟨.empty, []⟩]

/-- The current surface is the compiled one; binding the receiver for what
it cannot do makes a context that runs nothing, and taking that back one
whose surface has a higher version. -/
theorem surfaces_coherent_greeting :
    (∀ surface, (empty.after greeting).current = some surface →
      (empty.after greeting).compiled = some surface)
    ∧ (∃ cause,
      (empty.after (greeting ++ [.bind "shout" greeter])).run 0 "x" .empty
          (.stop (.done none)) ⟨.empty, []⟩
        = (.failed cause, ⟨.empty, []⟩,
          empty.after (greeting ++ [.bind "shout" greeter])))
    ∧ ∃ first second, (empty.after greeting).compile.1 = .ok first
      ∧ ((empty.after greeting).after
        [.bind "shout" greeter, .compile, .unbind "shout"]).compile.1
        = .ok second
      ∧ first.version ≤ second.version := by
  refine ⟨?_, ?_, ⟨_, _, rfl, rfl, ?_⟩⟩
  · intro surface hs
    exact ((surfaces_coherent greeting).2.1 surface hs).1
  · exact ⟨_, ((surfaces_coherent
      (greeting ++ [.bind "shout" greeter])).2.2.2.2.1 _ rfl).2 _ _ _ _ _⟩
  · exact ((surfaces_coherent greeting).2.2.1
      [.bind "shout" greeter, .compile, .unbind "shout"] _ _ rfl rfl).1

/-- A run that fails need not have left everything as it was: where it is
the code that fails, it has run. -/
theorem run_failed_having_run :
    ¬ ∀ actions depth line settings code start cause,
      ((empty.after actions).run depth line settings code start).1
        = .failed cause →
      ((empty.after actions).run depth line settings code start).2
        = (start, empty.after actions) := by
  intro h
  have hsame := h [] 0 "x" .empty
    (.set (.sym "k") (.int 1) (.fail (.configuration (.custom "boom"))))
    ⟨.empty, []⟩ _ rfl
  have hrecord := congrArg (fun left => left.1.record.data.size) hsame
  cases hrecord

end Context

end Logline
