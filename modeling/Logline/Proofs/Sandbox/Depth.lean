/-
The depth of calls is a bound and nothing else.

A run that is not exhausted never met the bound, so it goes the same way,
to the same record and journal, under every larger one. What is said of
runs that end, at whatever depth they were given, is said of the code.
-/
import Logline.Sandbox.Run

namespace Logline.Code

/-- Runs agree where they end if those of the entered code do. -/
theorem runWith_agree {enter enter' : Code → Progress → Ending × Progress}
    {scope : Scope}
    (h : ∀ code p, (enter code p).1 ≠ .exhausted →
      enter' code p = enter code p)
    (code : Code) :
    ∀ p, (code.runWith enter scope p).1 ≠ .exhausted →
      code.runWith enter' scope p = code.runWith enter scope p := by
  induction code with
  | done result => intro p _; rfl
  | fail cause => intro p _; rfl
  | look next ih => intro p hends; exact ih _ p hends
  | set key value next ih => intro p hends; exact ih _ hends
  | del key next ih => intro p hends; exact ih _ _ hends
  | stop next ih => intro p hends; exact ih _ hends
  | note entry next ih => intro p hends; exact ih _ hends
  | call operation args next ih =>
      intro p hends
      unfold runWith at hends ⊢
      cases hr : scope.surface.receiver? operation with
      | none =>
          simp only [hr] at hends ⊢
          exact ih _ _ hends
      | some receiver =>
          simp only [hr] at hends ⊢
          have hin := h (receiver.invoke operation args) p
          rcases he : enter (receiver.invoke operation args) p with
            ⟨ending, q⟩
          rw [he] at hin hends
          cases ending with
          | returned result =>
              rw [hin nofun]
              exact ih _ q hends
          | failed cause =>
              rw [hin nofun]
              exact ih _ q hends
          | exhausted => exact absurd rfl hends

/-- At every depth a run is one that enters operations in some way. -/
theorem run_enters (depth : Nat) (scope : Scope) :
    ∃ enter, run depth scope = runWith enter scope := by
  cases depth with
  | zero => exact ⟨_, rfl⟩
  | succ depth => exact ⟨_, rfl⟩

/-- A run that ends does not notice one call more. -/
theorem run_succ {depth : Nat} {scope : Scope} {code : Code} {p : Progress}
    (h : (code.run depth scope p).1 ≠ .exhausted) :
    code.run (depth + 1) scope p = code.run depth scope p := by
  induction depth generalizing code p with
  | zero => exact runWith_agree (fun _ _ hends => absurd rfl hends) code p h
  | succ depth ih => exact runWith_agree (fun _ _ => ih) code p h

end Logline.Code
