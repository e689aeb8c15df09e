/-
What looking a kind up does to the cache.

A cache that is asked for a kind may come out larger. That does not show:
what has been stored on demand is what would have been defined again, so
every selector, the one that was asked for and any other, comes to the kind
or to the error that it came to before (`alike_getOrDefine`). Caches are
therefore compared by what selectors come to (`ParserCache.Alike`), and
whatever only looks kinds up goes on among caches that are alike.
-/
import Logline.Parser.Cache
import Logline.Proofs.OrderedMap

namespace Logline

namespace ParserCache

/-- The kind that a selector comes to. -/
def kindOf (c : ParserCache) (selector : String) : Except Error ParserKind :=
  (c.getOrDefine selector).1.map Definition.kind

/-- What is stored under its name, or else what is built in. -/
theorem kindOf_eq (c : ParserCache) (selector : String) :
    c.kindOf selector
      = match c.definitions.find? (entryName selector) with
        | some d => .ok d.kind
        | none => Parser.builtin (entryName selector) := by
  unfold kindOf getOrDefine get?
  cases c.definitions.find? (entryName selector) with
  | some d => rfl
  | none =>
      dsimp only
      cases Parser.builtin (entryName selector) with
      | error cause => rfl
      | ok kind => rfl

/-- By the second cache every selector comes to what it comes to by the
first. -/
def Alike (a b : ParserCache) : Prop :=
  ∀ selector, b.kindOf selector = a.kindOf selector

theorem Alike.refl (c : ParserCache) : c.Alike c := fun _ => rfl

theorem Alike.trans {a b c : ParserCache} (h : a.Alike b) (h' : b.Alike c) :
    a.Alike c :=
  fun selector => (h' selector).trans (h selector)

/-- What is stored on demand comes to what it came to before. -/
theorem alike_getOrDefine (c : ParserCache) (selector : String) :
    c.Alike (c.getOrDefine selector).2 := by
  intro other
  rw [kindOf_eq, kindOf_eq]
  unfold getOrDefine get?
  cases hfound : c.definitions.find? (entryName selector) with
  | some d => rfl
  | none =>
      dsimp only
      cases hbuiltin : Parser.builtin (entryName selector) with
      | error cause => rfl
      | ok kind =>
          unfold store
          dsimp only
          rw [OrderedMap.find?_insert]
          by_cases hother : entryName other = entryName selector
          · rw [if_pos hother, hother, hfound]
            exact hbuiltin.symm
          · rw [if_neg hother]

end ParserCache

namespace Options

theorem resolve_fst (o : Options) (c : ParserCache) :
    (o.resolve c).1
      = match o.parser with
        | .kind k => .ok k
        | .named name => c.kindOf name := by
  unfold resolve
  cases o.parser with
  | kind k => rfl
  | named name => rfl

theorem alike_resolve (o : Options) (c : ParserCache) :
    c.Alike (o.resolve c).2 := by
  unfold resolve
  cases o.parser with
  | kind k => exact .refl c
  | named name => exact c.alike_getOrDefine name

/-- Options select the same kind by caches that are alike. -/
theorem resolve_alike {a b : ParserCache} (h : a.Alike b) (o : Options) :
    (o.resolve b).1 = (o.resolve a).1 := by
  rw [resolve_fst, resolve_fst]
  cases o.parser with
  | kind k => rfl
  | named name => exact h name

end Options

end Logline
