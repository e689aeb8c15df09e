/-
Which bindings make a surface.

A surface can be made just where every receiver supports the operation that
it is bound for (`Surface.compile_ok_iff`); otherwise one that does not is
named (`Surface.compile_error`). For a context this is a matter of its
bindings alone, whatever it has compiled before, except that a surface that
it has is not made again: only where bindings were added is an error sure
to show (`Context.compile_bindAll_error`).
-/
import Logline.Proofs.OrderedMap
import Logline.Sandbox.Context

namespace Logline

/-- A receiver can be bound for an operation. -/
def Supports (operation : String) (receiver : Receiver) : Prop :=
  receiver.respondsTo operation = true

/-- The error for a receiver that cannot. -/
def unsupported (operation : String) (receiver : Receiver) : Error :=
  .configuration (.unsupportedBinding operation receiver.label)

namespace Surface

theorem firstUnsupported?_none_iff {bindings : Bindings} :
    firstUnsupported? bindings = none ↔ bindings.All Supports := by
  unfold firstUnsupported?
  rw [List.find?_eq_none]
  constructor
  · intro h operation receiver hfound
    simpa [Supports] using h _ (OrderedMap.find?_iff_mem.mp hfound)
  · intro h b hb
    have hb' := h b.1 b.2 (OrderedMap.find?_iff_mem.mpr hb)
    simpa [Supports] using hb'

theorem compile_ok_iff {bindings : Bindings} {version : Nat} :
    (∃ surface, compile bindings version = .ok surface)
      ↔ bindings.All Supports := by
  rw [← firstUnsupported?_none_iff]
  unfold compile
  cases firstUnsupported? bindings with
  | none => exact ⟨fun _ => rfl, fun _ => ⟨_, rfl⟩⟩
  | some b =>
      constructor
      · rintro ⟨surface, h⟩
        cases h
      · intro h
        cases h

theorem compile_error {bindings : Bindings} (version : Nat)
    (h : ¬ bindings.All Supports) :
    ∃ operation receiver, bindings.find? operation = some receiver
      ∧ ¬ Supports operation receiver
      ∧ compile bindings version
        = .error (unsupported operation receiver) := by
  rw [← firstUnsupported?_none_iff] at h
  unfold compile
  cases hf : firstUnsupported? bindings with
  | none => exact absurd hf h
  | some b =>
      have hmem := List.mem_of_find?_eq_some hf
      have hbad := List.find?_some hf
      refine ⟨b.1, b.2, OrderedMap.find?_iff_mem.mpr hmem, ?_, rfl⟩
      simpa [Supports] using hbad

end Surface

namespace Context

variable (c : Context)

theorem bindAll_bindings (pairs : List (String × Receiver)) :
    (c.bindAll pairs).bindings = c.bindings.insertAll pairs := by
  unfold bindAll
  induction pairs generalizing c with
  | nil => rfl
  | cons b rest ih => exact ih (c.bind b.1 b.2)

/-- Adding bindings forgets what was made of the former ones. -/
theorem bindAll_compiled {pairs : List (String × Receiver)}
    (h : pairs ≠ []) : (c.bindAll pairs).compiled = none := by
  unfold bindAll
  cases pairs with
  | nil => exact absurd rfl h
  | cons b rest =>
      rw [List.foldl_cons]
      suffices go : ∀ c : Context, c.compiled = none →
          (rest.foldl (fun c b => c.bind b.1 b.2) c).compiled = none from
        go _ rfl
      induction rest with
      | nil => exact fun _ h => h
      | cons b rest ih => exact fun c _ => ih (by simp) (c.bind b.1 b.2) rfl

theorem compile_bindings : c.compile.2.bindings = c.bindings := by
  unfold compile
  cases c.compiled with
  | some surface => rfl
  | none => cases Surface.compile c.bindings c.version <;> rfl

/-- What was compiled is not compiled again. -/
theorem compile_again (surface : Surface) (h : c.compile.1 = .ok surface) :
    c.compile.2.compile.1 = .ok surface := by
  unfold compile at h ⊢
  cases hc : c.compiled with
  | some held =>
      simp only [hc] at h ⊢
      exact h
  | none =>
      cases hs : Surface.compile c.bindings c.version with
      | error cause =>
          simp only [hc, hs] at h
          cases h
      | ok made =>
          simp only [hc, hs] at h ⊢
          exact h

theorem run_bindings (depth : Nat) (line : String) (settings : Settings)
    (code : Code) (p : Progress) :
    (c.run depth line settings code p).2.2.bindings = c.bindings := by
  have hcompile := c.compile_bindings
  unfold run
  rcases hc : c.compile with ⟨_ | surface, c'⟩
  all_goals
    rw [hc] at hcompile
    exact hcompile

/-- Bindings that are supported can always be compiled. -/
theorem compile_supported (h : c.bindings.All Supports) :
    ∃ surface, c.compile.1 = .ok surface := by
  unfold compile
  cases c.compiled with
  | some surface => exact ⟨surface, rfl⟩
  | none =>
      obtain ⟨surface, hs⟩ := Surface.compile_ok_iff.mpr h
      rw [hs]
      exact ⟨surface, rfl⟩

/-- Pairs that come to a binding that is not supported cannot be added to
any bindings. The error names one of that kind, from the pairs or from what
they were added to. -/
theorem compile_bindAll_error {pairs : List (String × Receiver)}
    (h : ¬ (OrderedMap.ofList pairs).All Supports) :
    ∃ operation receiver,
      (c.bindings.insertAll pairs).find? operation = some receiver
      ∧ ¬ Supports operation receiver
      ∧ (c.bindAll pairs).compile.1
        = .error (unsupported operation receiver) := by
  have hsome : pairs ≠ [] := by
    rintro rfl
    exact h OrderedMap.All.empty
  have hall : ¬ (c.bindings.insertAll pairs).All Supports := by
    refine fun hall => h fun operation receiver hfound => ?_
    refine hall operation receiver ?_
    rw [OrderedMap.find?_insertAll, hfound]
    rfl
  obtain ⟨operation, receiver, hfound, hbad, herror⟩ :=
    Surface.compile_error (c.bindAll pairs).version hall
  refine ⟨operation, receiver, hfound, hbad, ?_⟩
  unfold compile
  rw [c.bindAll_compiled hsome, bindAll_bindings, herror]

end Context

end Logline
