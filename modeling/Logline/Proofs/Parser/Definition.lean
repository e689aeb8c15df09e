/-
What a definition has checked, and what it has not.

A definition compiles one table: the whitelist with the bindings of all
addins written over it. An activation compiles that table too, but last;
before it there are the whitelist alone and the table after each addin. The
definition looks at the last value under each name. So what it cannot see
is a binding of the whitelist that an addin replaces.

The bindings of an addin are looked at one by one when it is resolved, so
from the whitelist on nothing can go wrong: if the whitelist itself can be
compiled then so can every later table, those of a second activation over
what the first one left included. If it cannot, no parser of the kind is
ever activated.
-/
import Logline.Proofs.Parser.Life
import Logline.Proofs.Sandbox.Bindings

namespace Logline

-- ======================================================= definitions

/-- Every element that a successful `mapM` gives was given for one. -/
private theorem mem_of_mapM_ok {α β ε : Type} {f : α → Except ε β}
    {xs : List α} {ys : List β} (h : xs.mapM f = .ok ys) {y : β}
    (hy : y ∈ ys) : ∃ x ∈ xs, f x = .ok y := by
  induction xs generalizing ys with
  | nil =>
      cases h
      cases hy
  | cons x rest ih =>
      rw [List.mapM_cons] at h
      cases hx : f x with
      | error cause =>
          rw [hx] at h
          cases h
      | ok first =>
          rw [hx] at h
          cases hrest : rest.mapM f with
          | error cause =>
              rw [hrest] at h
              cases h
          | ok others =>
              rw [hrest] at h
              cases h
              rcases List.mem_cons.mp hy with rfl | hmem
              · exact ⟨x, .head _, hx⟩
              · obtain ⟨x', hx', hf⟩ := ih hrest hmem
                exact ⟨x', .tail _ hx', hf⟩

/-- A checked addin supports whatever it exposes. -/
theorem Addin.checked_bindings {a a' : Addin} (h : a.checked = .ok a') :
    ∀ b ∈ a'.bindings, Supports b.1 b.2 := by
  unfold checked at h
  cases hf : a.exposes.find? fun operation => !a.respondsTo operation with
  | some operation =>
      rw [hf] at h
      cases h
  | none =>
      rw [hf] at h
      cases h
      intro b hb
      obtain ⟨operation, hmem, rfl⟩ := List.mem_map.mp hb
      simpa [Supports, receiver] using
        List.find?_eq_none.mp hf operation hmem

theorem AddinRef.resolve_bindings {registry : Registry} {ref : AddinRef}
    {a : Addin} (h : ref.resolve registry = .ok a) :
    ∀ b ∈ a.bindings, Supports b.1 b.2 := by
  cases ref with
  | unit unit => exact Addin.checked_bindings h
  | name name =>
      unfold resolve at h
      cases hl : registry.lookup name with
      | error cause =>
          simp only [hl] at h
          cases h
      | ok unit =>
          simp only [hl] at h
          exact Addin.checked_bindings h

namespace ParserKind

/-- What a definition has made sure of. -/
structure Checked (kind : ParserKind) : Prop where
  /-- Every addin supports what it exposes. -/
  addins : ∀ addin ∈ kind.addins, ∀ b ∈ addin.bindings, Supports b.1 b.2
  /-- What all bindings come to in the end is supported. -/
  bindings :
    (OrderedMap.ofList (allBindings kind.whitelist kind.addins)).All Supports

/-- A definition succeeds in one way: the addins are resolved, the table of
all bindings is compiled from nothing, and the rules are declared. -/
theorem define_ok {b : Blueprint} {kind : ParserKind}
    (h : define b = .ok kind) :
    kind.whitelist = b.whitelist
      ∧ b.addins.mapM (AddinRef.resolve b.registry) = .ok kind.addins
      ∧ (∃ surface, (Context.empty.bindAll
          (allBindings kind.whitelist kind.addins)).compile.1 = .ok surface)
      ∧ RuleSet.ofDeclarations b.rules = .ok kind.rules := by
  unfold define at h
  cases ha : b.addins.mapM (AddinRef.resolve b.registry) with
  | error cause =>
      rw [ha] at h
      cases h
  | ok addins =>
      simp only [ha] at h
      cases hc : (Context.empty.bindAll (allBindings b.whitelist addins)
        ).compile.1 with
      | error cause =>
          rw [hc] at h
          cases h
      | ok surface =>
          simp only [hc] at h
          cases hr : RuleSet.ofDeclarations b.rules with
          | error cause =>
              rw [hr] at h
              cases h
          | ok rules =>
              rw [hr] at h
              cases h
              exact ⟨rfl, rfl, ⟨surface, hc⟩, rfl⟩

theorem define_checked {b : Blueprint} {kind : ParserKind}
    (h : define b = .ok kind) : kind.Checked := by
  obtain ⟨-, haddins, ⟨surface, hsurface⟩, -⟩ := define_ok h
  refine ⟨fun addin hmem => ?_, ?_⟩
  · obtain ⟨ref, -, hresolve⟩ := mem_of_mapM_ok haddins hmem
    exact AddinRef.resolve_bindings hresolve
  · -- the table was compiled from nothing, so no surface was reused
    refine Classical.byContradiction fun hnot => ?_
    obtain ⟨_, _, -, -, herror⟩ := Context.empty.compile_bindAll_error hnot
    rw [hsurface] at herror
    cases herror

/-- A binding of the whitelist that is not supported passes only where an
addin replaces it. -/
theorem Checked.replaced {kind : ParserKind} (h : kind.Checked)
    {operation : String} {receiver : Receiver}
    (hfound : (OrderedMap.ofList kind.whitelist).find? operation
      = some receiver)
    (hbad : ¬ Supports operation receiver) :
    ∃ addin ∈ kind.addins, operation ∈ addin.exposes := by
  have hall := h.bindings
  unfold allBindings at hall
  rw [OrderedMap.ofList_append] at hall
  cases hover : (OrderedMap.ofList (kind.addins.flatMap Addin.bindings)).find?
    operation with
  | none =>
      refine absurd (hall operation receiver ?_) hbad
      rw [OrderedMap.find?_insertAll, hover, hfound]
      rfl
  | some other =>
      obtain ⟨addin, hmem, hb⟩ :=
        List.mem_flatMap.mp (OrderedMap.mem_of_find?_ofList hover)
      obtain ⟨exposed, hexposed, he⟩ := List.mem_map.mp hb
      cases he
      exact ⟨addin, hmem, hexposed⟩

end ParserKind

end Logline
