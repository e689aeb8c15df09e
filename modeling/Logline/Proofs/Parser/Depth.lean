/-
Parses do not depend on the depth that calls are given, but for whether
they end: one that is not exhausted comes to the same reply at every larger
depth (`parse_deeper`). So a line has one result, if it has any.
-/
import Logline.Parser.LineParser
import Logline.Proofs.Sandbox.Depth

namespace Logline.LineParser

variable (depth : Nat) (p : LineParser)

theorem runCode_succ (code : Code) (journal : List Entry)
    (h : (p.runCode depth code journal).outcome ≠ .exhausted) :
    p.runCode (depth + 1) code journal = p.runCode depth code journal := by
  rcases hc : p.context.compile with ⟨_ | surface, context⟩
  · simp only [runCode, Context.run, hc]
  · simp only [runCode, Context.run, hc] at h ⊢
    have hrun : (code.run depth ⟨surface, p.line, p.options.settings⟩
        ⟨p.record, journal⟩).1 ≠ .exhausted := by
      intro hexhausted
      rw [hexhausted] at h
      exact h rfl
    rw [Code.run_succ hrun]

/-- Code that fails ends in no other way at any depth. -/
theorem runCode_failed {code : Code} {journal : List Entry} {cause : Error}
    (h : (p.runCode depth code journal).outcome = .failed cause)
    (deeper : Nat) (result : Option Value) :
    (p.runCode deeper code journal).outcome ≠ .ok result := by
  have hsame : ∀ {low high : Nat}, low ≤ high →
      (p.runCode low code journal).outcome ≠ .exhausted →
      p.runCode high code journal = p.runCode low code journal := by
    intro low high hle hends
    induction hle with
    | refl => rfl
    | @step high _ ih =>
        rw [← ih] at hends ⊢
        exact runCode_succ high p code journal hends
  intro hok
  rcases Nat.le_total depth deeper with hle | hle
  · rw [hsame hle (by rw [h]; nofun), h] at hok
    cases hok
  · rw [hsame hle (by rw [hok]; nofun), hok] at h
    cases h

theorem activateAddins_succ (addins : List Addin) (journal : List Entry)
    (h : (activateAddins depth addins p journal).outcome ≠ .exhausted) :
    activateAddins (depth + 1) addins p journal
      = activateAddins depth addins p journal := by
  induction addins generalizing p journal with
  | nil => rfl
  | cons addin rest ih =>
      rcases hi : p.install addin.bindings with ⟨_ | _, q⟩
      · simp only [activateAddins, hi]
      · have hsucc := runCode_succ depth q addin.setup journal
        rcases hr : q.runCode depth addin.setup journal with
          ⟨_ | _ | _, s, later⟩
        · rw [hr] at hsucc
          simp only [activateAddins, hi, hr, hsucc nofun] at h ⊢
          exact ih s later h
        · rw [hr] at hsucc
          simp only [activateAddins, hi, hr, hsucc nofun]
        · simp only [activateAddins, hi, hr] at h
          exact absurd rfl h

theorem activate_succ (h : (p.activate depth).outcome ≠ .exhausted) :
    p.activate (depth + 1) = p.activate depth := by
  cases ha : p.activated with
  | true => simp only [activate, ha, if_true]
  | false =>
      rcases hi : p.install p.kind.whitelist with ⟨_ | _, q⟩
      · simp only [activate, ha, hi, Bool.false_eq_true, if_false]
      · have hsucc := activateAddins_succ depth q q.kind.addins []
        rcases hr : activateAddins depth q.kind.addins q [] with
          ⟨_ | _ | _, s, later⟩
        · rw [hr] at hsucc
          simp only [activate, ha, hi, hr, hsucc nofun, Bool.false_eq_true,
            if_false]
        · rw [hr] at hsucc
          simp only [activate, ha, hi, hr, hsucc nofun, Bool.false_eq_true,
            if_false]
        · simp only [activate, ha, hi, hr, Bool.false_eq_true,
            if_false] at h
          exact absurd rfl h

theorem evaluate_succ (h : (p.evaluate depth).outcome ≠ .exhausted) :
    p.evaluate (depth + 1) = p.evaluate depth := by
  have hactive := activate_succ depth p
  rcases ha : p.activate depth with ⟨_ | _ | _, q, journal⟩
  · rw [ha] at hactive
    have hsucc := runCode_succ depth q q.kind.rules.code journal
    rcases hr : q.runCode depth q.kind.rules.code journal with
      ⟨_ | _ | _, s, later⟩
    · rw [hr] at hsucc
      simp only [evaluate, ha, hactive nofun, hr, hsucc nofun]
    · rw [hr] at hsucc
      simp only [evaluate, ha, hactive nofun, hr, hsucc nofun]
    · simp only [evaluate, ha, hr] at h
      exact absurd rfl h
  · rw [ha] at hactive
    simp only [evaluate, ha, hactive nofun]
  · simp only [evaluate, ha] at h
    exact absurd rfl h

/-- A parse that ends comes to the same reply with one call more. -/
theorem parse_succ (h : (p.parse depth).outcome ≠ .exhausted) :
    p.parse (depth + 1) = p.parse depth := by
  cases hd : p.data with
  | some data => simp only [parse, hd]
  | none =>
      have hev := evaluate_succ depth p
      rcases he : p.evaluate depth with ⟨_ | _ | _, q, journal⟩
      · rw [he] at hev
        simp only [parse, hd, he, hev nofun]
      · rw [he] at hev
        simp only [parse, hd, he, hev nofun]
      · simp only [parse, hd, he] at h
        exact absurd rfl h

/-- A parse that ends comes to the same reply at every larger depth. -/
theorem parse_deeper {depth deeper : Nat} (hle : depth ≤ deeper)
    (p : LineParser) (h : (p.parse depth).outcome ≠ .exhausted) :
    p.parse deeper = p.parse depth := by
  induction hle with
  | refl => rfl
  | @step deeper _ ih =>
      rw [← ih] at h ⊢
      exact parse_succ deeper p h

end Logline.LineParser
