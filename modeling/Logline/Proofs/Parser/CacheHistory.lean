/-
What a cache of definitions holds after any history of calls.

A name has its entry, and all that a call does with a name goes through that,
so names with the same entry can stand for each other (`call_sameForm`). What
a call does to an entry is one of three things: it stores a definition there,
drops what is there, or leaves it as it is (`Change`). A call stores a
definition either because it is told to or because it is asked for a built-in
kind that is not there. The second never happens to an entry that holds a
definition. So a definition, however it came there, stays until another is
registered in its place, or it is removed, or all are forgotten
(`Answers.after`), and what is found is the definition stored last
(`find?_after_iff`).

Definitions are numbered as they are stored. That the same definition is
given twice is to say that it is the one of the same store.
-/
import Mathlib.Data.List.Induction
import Logline.Proofs.Parser.Basic.Records

namespace Logline.ParserCache

-- ============================================================= calls

/-- A call to a cache. -/
inductive Call where
  | register (selector : String) (kind : ParserKind)
  | getOrDefine (selector : String)
  | get (selector : String)
  | remove (selector : String)
  | clear

/-- What a call gives. -/
inductive Reply where
  | done
  | found (definition : Option Definition)
  | defined (definition : Except Error Definition)

/-- The reply to a call, and the cache after it. -/
def call (c : ParserCache) : Call → Reply × ParserCache
  | .register selector kind => (.done, c.register selector kind)
  | .getOrDefine selector =>
    (.defined (c.getOrDefine selector).1, (c.getOrDefine selector).2)
  | .get selector => (.found (c.get? selector), c)
  | .remove selector => (.found (c.remove selector).1, (c.remove selector).2)
  | .clear => (.done, c.clear)

/-- The cache after a list of calls. -/
def after (c : ParserCache) (calls : List Call) : ParserCache :=
  calls.foldl (fun c call => (c.call call).2) c

theorem after_append (c : ParserCache) (first second : List Call) :
    c.after (first ++ second) = (c.after first).after second :=
  List.foldl_append

namespace Call

/-- A call that registers a definition in an entry. -/
def Registers (entry : String) : Call → Prop
  | register selector _ => entryName selector = entry
  | _ => False

/-- A call that drops what an entry holds. -/
def Drops (entry : String) : Call → Prop
  | remove selector => entryName selector = entry
  | clear => True
  | _ => False

/-- A call that changes which definition an entry holds, if it holds one. -/
def Touches (entry : String) (call : Call) : Prop :=
  call.Registers entry ∨ call.Drops entry

/-- The same call, under names with the same entry. -/
inductive SameForm : Call → Call → Prop
  | register {a b : String} (h : entryName a = entryName b)
      (kind : ParserKind) : SameForm (.register a kind) (.register b kind)
  | getOrDefine {a b : String} (h : entryName a = entryName b) :
      SameForm (.getOrDefine a) (.getOrDefine b)
  | get {a b : String} (h : entryName a = entryName b) :
      SameForm (.get a) (.get b)
  | remove {a b : String} (h : entryName a = entryName b) :
      SameForm (.remove a) (.remove b)
  | clear : SameForm .clear .clear

end Call

/-- The definition that a call stores, and the entry in which it does. -/
inductive Stores (c : ParserCache) : Call → String → Definition → Prop
  | registered (selector : String) (kind : ParserKind) :
      Stores c (.register selector kind) (entryName selector) ⟨kind, c.next⟩
  | defined {selector : String} {kind : ParserKind}
      (absent : c.get? selector = none)
      (builtin : Parser.builtin (entryName selector) = .ok kind) :
      Stores c (.getOrDefine selector) (entryName selector) ⟨kind, c.next⟩

variable {c : ParserCache} {x y : Call} {entry selector : String}
  {d : Definition} {kind : ParserKind} {cause : Error}

-- ============================================================== names

/-- Names with the same entry are interchangeable. -/
theorem call_sameForm (h : x.SameForm y) (c : ParserCache) :
    c.call y = c.call x := by
  cases h with
  | register h kind => simp only [call, register, h]
  | getOrDefine h => simp only [call, getOrDefine, get?, h]
  | get h => simp only [call, get?, h]
  | remove h => simp only [call, remove, get?, h]
  | clear => rfl

theorem after_sameForm {calls others : List Call}
    (h : List.Forall₂ Call.SameForm calls others) (c : ParserCache) :
    c.after others = c.after calls := by
  unfold after
  induction h generalizing c with
  | nil => rfl
  | cons h _ ih => rw [List.foldl_cons, List.foldl_cons, call_sameForm h, ih]

-- =========================================================== lookups

theorem getOrDefine_of_stored (h : c.get? selector = some d) :
    c.getOrDefine selector = (.ok d, c) := by
  unfold getOrDefine
  rw [h]

theorem getOrDefine_of_builtin (absent : c.get? selector = none)
    (h : Parser.builtin (entryName selector) = .ok kind) :
    c.getOrDefine selector
      = (.ok ⟨kind, c.next⟩, c.store (entryName selector) kind) := by
  unfold getOrDefine
  rw [absent]
  dsimp only
  rw [h]

theorem getOrDefine_of_unknown (absent : c.get? selector = none)
    (h : Parser.builtin (entryName selector) = .error cause) :
    c.getOrDefine selector = (.error cause, c) := by
  unfold getOrDefine
  rw [absent]
  dsimp only
  rw [h]

/-- What asking for a name gives, and the cache after it. -/
inductive Given (c : ParserCache) (selector : String) :
    Except Error Definition × ParserCache → Prop
  | stored {d : Definition} (h : c.get? selector = some d) :
      Given c selector (.ok d, c)
  | defined {kind : ParserKind} (absent : c.get? selector = none)
      (builtin : Parser.builtin (entryName selector) = .ok kind) :
      Given c selector
        (.ok ⟨kind, c.next⟩, c.store (entryName selector) kind)
  | unknown {cause : Error} (absent : c.get? selector = none)
      (h : Parser.builtin (entryName selector) = .error cause) :
      Given c selector (.error cause, c)

theorem given (c : ParserCache) (selector : String) :
    Given c selector (c.getOrDefine selector) := by
  cases hfound : c.get? selector with
  | some d =>
      rw [getOrDefine_of_stored hfound]
      exact .stored hfound
  | none =>
      cases hbuiltin : Parser.builtin (entryName selector) with
      | error cause =>
          rw [getOrDefine_of_unknown hfound hbuiltin]
          exact .unknown hfound hbuiltin
      | ok kind =>
          rw [getOrDefine_of_builtin hfound hbuiltin]
          exact .defined hfound hbuiltin

/-- Every built-in name has its kind. -/
theorem builtin_of_mem (h : entry ∈ Parser.builtinNames) :
    ∃ kind, Parser.builtin entry = .ok kind := by
  rw [List.mem_singleton.mp h]
  exact ⟨_, Parser.Basic.builtin_basic⟩

/-- No other name has one. -/
theorem builtin_of_not_mem (h : entry ∉ Parser.builtinNames) :
    Parser.builtin entry
      = .error (.configuration
          (.unknownParser entry Parser.builtinNames)) :=
  if_neg fun hname => h (List.mem_singleton.mpr hname)

-- =========================================================== one call

/-- What a store leaves in the entries. -/
theorem find?_store (c : ParserCache) (stored : String) (kind : ParserKind)
    (entry : String) :
    (c.store stored kind).definitions.find? entry
      = if entry = stored then some ⟨kind, c.next⟩
        else c.definitions.find? entry :=
  OrderedMap.find?_insert c.definitions stored entry ⟨kind, c.next⟩

/-- What is stored has the next number. -/
theorem Stores.eq_store (h : c.Stores x entry d) :
    d.number = c.next ∧ (c.call x).2 = c.store entry d.kind := by
  cases h with
  | registered selector kind => exact ⟨rfl, rfl⟩
  | defined absent builtin =>
      refine ⟨rfl, ?_⟩
      show (c.getOrDefine _).2 = _
      rw [getOrDefine_of_builtin absent builtin]

/-- It is there. -/
theorem Stores.find? (h : c.Stores x entry d) :
    (c.call x).2.definitions.find? entry = some d := by
  obtain ⟨hnumber, hstore⟩ := h.eq_store
  rw [hstore, find?_store, if_pos rfl, ← hnumber]

/-- What a call does to what an entry holds. -/
inductive Change (c : ParserCache) (x : Call) (entry : String) :
    Option Definition → Prop
  | stored {d : Definition} (h : c.Stores x entry d) :
      Change c x entry (some d)
  | dropped (h : x.Drops entry) : Change c x entry none
  | kept (untouched : ¬ x.Touches entry) :
      Change c x entry (c.definitions.find? entry)

/-- A store changes one entry, and keeps every other. -/
theorem change_store {stored : String}
    (h : c.Stores x stored ⟨kind, c.next⟩)
    (others : entry ≠ stored → ¬ x.Touches entry) :
    Change c x entry ((c.store stored kind).definitions.find? entry) := by
  rw [find?_store]
  by_cases hname : entry = stored
  · rw [if_pos hname, hname]
    exact .stored h
  · rw [if_neg hname]
    exact .kept (others hname)

theorem change (c : ParserCache) (x : Call) (entry : String) :
    Change c x entry ((c.call x).2.definitions.find? entry) := by
  cases x with
  | register selector kind =>
      exact change_store (.registered selector kind)
        fun hname h => h.elim (fun hregisters => hname hregisters.symm) id
  | getOrDefine selector =>
      have huntouched : ¬ (Call.getOrDefine selector).Touches entry :=
        fun h => h.elim id id
      have hgiven := c.given selector
      show Change c _ entry
        ((c.getOrDefine selector).2.definitions.find? entry)
      generalize c.getOrDefine selector = given at hgiven
      cases hgiven with
      | stored _ => exact .kept huntouched
      | defined absent builtin =>
          exact change_store (.defined absent builtin) fun _ => huntouched
      | unknown _ _ => exact .kept huntouched
  | get selector => exact .kept fun h => h.elim id id
  | remove selector =>
      show Change c _ entry
        ((c.definitions.erase (entryName selector)).find? entry)
      rw [OrderedMap.find?_erase]
      by_cases hname : entry = entryName selector
      · rw [if_pos hname]
        exact .dropped hname.symm
      · rw [if_neg hname]
        exact .kept fun h => h.elim id fun hdrops => hname hdrops.symm
  | clear => exact .dropped trivial

/-- A call that stores in an entry touches it, unless nothing was there. -/
theorem Stores.touches (h : c.Stores x entry d) :
    x.Touches entry
    ∨ c.definitions.find? entry = none
      ∧ Parser.builtin entry = .ok d.kind := by
  cases h with
  | registered selector kind => exact .inl (.inl rfl)
  | defined absent builtin => exact .inr ⟨absent, builtin⟩

/-- What an entry comes to from now on: the definition that is there, or the
error where there is none and nothing is built in. -/
inductive Answers (c : ParserCache) (entry : String) :
    Except Error Definition → Prop
  | stored {d : Definition} (h : c.definitions.find? entry = some d) :
      Answers c entry (.ok d)
  | unknown {cause : Error} (absent : c.definitions.find? entry = none)
      (h : Parser.builtin entry = .error cause) :
      Answers c entry (.error cause)

variable {answer : Except Error Definition} {calls : List Call}

/-- Asked for by a name, it is given, and nothing is stored. -/
theorem Answers.getOrDefine (h : c.Answers (entryName selector) answer) :
    c.getOrDefine selector = (answer, c) := by
  cases h with
  | stored h => exact getOrDefine_of_stored h
  | unknown absent h => exact getOrDefine_of_unknown absent h

/-- Being asked for settles it. -/
theorem answers_getOrDefine (c : ParserCache) (selector : String) :
    (c.getOrDefine selector).2.Answers (entryName selector)
      (c.getOrDefine selector).1 := by
  have hgiven := c.given selector
  generalize c.getOrDefine selector = given at hgiven
  cases hgiven with
  | stored h => exact .stored h
  | defined _ _ => exact .stored ((c.find?_store _ _ _).trans (if_pos rfl))
  | unknown absent h => exact .unknown absent h

/-- It stays while the entry is not touched. -/
theorem Answers.call (h : c.Answers entry answer)
    (untouched : ¬ x.Touches entry) : (c.call x).2.Answers entry answer := by
  have hchange := c.change x entry
  generalize hafter : (c.call x).2.definitions.find? entry = found at hchange
  cases hchange with
  | stored hstores =>
      obtain htouches | ⟨habsent, hbuiltin⟩ := hstores.touches
      · exact absurd htouches untouched
      · -- only what is neither there nor unknown is defined
        cases h with
        | stored h => cases habsent.symm.trans h
        | unknown absent h => cases hbuiltin.symm.trans h
  | dropped hdrops => exact absurd (.inr hdrops) untouched
  | kept _ =>
      cases h with
      | stored h => exact .stored (hafter.trans h)
      | unknown absent h => exact .unknown (hafter.trans absent) h

theorem Answers.after (h : c.Answers entry answer)
    (untouched : ∀ x ∈ calls, ¬ x.Touches entry) :
    (c.after calls).Answers entry answer := by
  unfold ParserCache.after
  induction calls generalizing c with
  | nil => exact h
  | cons x rest ih =>
      exact ih (h.call (untouched x (.head _)))
        fun x hx => untouched x (.tail _ hx)

-- ============================================================ numbers

theorem next_le_call (c : ParserCache) (x : Call) :
    c.next ≤ (c.call x).2.next := by
  cases x with
  | register selector kind => exact Nat.le_succ _
  | getOrDefine selector =>
      have hgiven := c.given selector
      show c.next ≤ (c.getOrDefine selector).2.next
      generalize c.getOrDefine selector = given at hgiven
      cases hgiven with
      | defined _ _ => exact Nat.le_succ _
      | _ => exact Nat.le_refl _
  | _ => exact Nat.le_refl _

theorem next_le_after (c : ParserCache) (calls : List Call) :
    c.next ≤ (c.after calls).next := by
  unfold after
  induction calls generalizing c with
  | nil => exact Nat.le_refl _
  | cons x rest ih => exact Nat.le_trans (c.next_le_call x) (ih _)

-- ========================================================== histories

/-- The definition that was stored last in an entry: since then none has been
registered there, it has not been removed, and the cache was not cleared. -/
def LastStored (calls : List Call) (entry : String) (d : Definition) : Prop :=
  ∃ before x since, calls = before ++ x :: since
    ∧ (empty.after before).Stores x entry d
    ∧ ∀ later ∈ since, ¬ later.Touches entry

/-- That is the definition that is there. -/
theorem find?_after_iff :
    (empty.after calls).definitions.find? entry = some d
      ↔ LastStored calls entry d := by
  constructor
  · intro h
    induction calls using List.reverseRecOn with
    | nil => cases h
    | append_singleton calls x ih =>
        have hchange := (empty.after calls).change x entry
        have hlast : ((empty.after calls).call x).2.definitions.find? entry
            = some d := by
          rw [after_append] at h
          exact h
        rw [hlast] at hchange
        generalize hfound : some d = found at hchange
        cases hchange with
        | stored hstores =>
            cases hfound
            exact ⟨calls, x, [], rfl, hstores, nofun⟩
        | dropped _ => cases hfound
        | kept huntouched =>
            obtain ⟨before, y, since, rfl, hstores, hsince⟩ := ih hfound.symm
            refine ⟨before, y, since ++ [x], by simp, hstores, ?_⟩
            intro later hlater
            rcases List.mem_append.mp hlater with hearlier | hx
            · exact hsince later hearlier
            · rw [List.mem_singleton.mp hx]
              exact huntouched
  · rintro ⟨before, x, since, rfl, hstores, huntouched⟩
    have hthere : ((empty.after before).call x).2.Answers entry (.ok d) :=
      .stored hstores.find?
    rw [after_append]
    cases hthere.after huntouched with
    | stored h => exact h

/-- A call that drops what an entry holds leaves nothing there. -/
theorem find?_call_drops (h : x.Drops entry) :
    (c.call x).2.definitions.find? entry = none := by
  have hchange := c.change x entry
  generalize (c.call x).2.definitions.find? entry = found at hchange
  cases hchange with
  | stored hstores =>
      cases hstores with
      | registered selector kind => exact h.elim
      | defined absent builtin => exact h.elim
  | dropped _ => rfl
  | kept huntouched => exact absurd (.inr h) huntouched

-- ============================================================ the cache

/-- What calls come to after a history of them, for the names of one entry. -/
structure Lookups (calls : List Call) (selector : String) : Prop where
  /-- Names with the same entry can stand for each other in every call, of the
  history and after it. -/
  interchangeable : ∀ others, List.Forall₂ Call.SameForm calls others →
    ∀ x y, Call.SameForm x y →
      (empty.after others).call y = (empty.after calls).call x
  /-- What was stored last is there, and it is given without a change. -/
  stored : ∀ d, LastStored calls (entryName selector) d →
    (empty.after calls).get? selector = some d
      ∧ (empty.after calls).getOrDefine selector = (.ok d, empty.after calls)
  /-- Else nothing is there, and what is built in is defined and stored. -/
  defined : (¬ ∃ d, LastStored calls (entryName selector) d) →
    (empty.after calls).get? selector = none
      ∧ (entryName selector ∈ Parser.builtinNames →
        ∃ kind d, Parser.builtin (entryName selector) = .ok kind
          ∧ d = ⟨kind, (empty.after calls).next⟩
          ∧ (empty.after calls).getOrDefine selector
            = (.ok d, (empty.after calls).store (entryName selector) kind)
          ∧ LastStored (calls ++ [.getOrDefine selector])
            (entryName selector) d)
      ∧ (entryName selector ∉ Parser.builtinNames →
        (empty.after calls).getOrDefine selector
          = (.error (.configuration (.unknownParser (entryName selector)
              Parser.builtinNames)), empty.after calls))
  /-- Nothing is defined by looking. -/
  looking : ((empty.after calls).call (.get selector)).2 = empty.after calls
  /-- What is given once is given again while the entry is not touched. -/
  again : ∀ other between, entryName other = entryName selector →
    (∀ x ∈ between, ¬ x.Touches (entryName selector)) →
    ((empty.after (calls ++ .getOrDefine selector :: between)).getOrDefine
        other).1
      = ((empty.after calls).getOrDefine selector).1
  /-- A registered kind is given in place of what is built in. -/
  shadowed : ∀ name kind since, entryName name = entryName selector →
    (∀ x ∈ since, ¬ x.Touches (entryName selector)) →
    ((empty.after (calls ++ .register name kind :: since)).getOrDefine
        selector).1
      = .ok ⟨kind, (empty.after calls).next⟩
  /-- Once it has been dropped, that is defined again. -/
  unshadowed : ∀ x, x.Drops (entryName selector) →
    entryName selector ∈ Parser.builtinNames →
    ∃ kind, Parser.builtin (entryName selector) = .ok kind
      ∧ ((empty.after (calls ++ [x])).getOrDefine selector).1
        = .ok ⟨kind, (empty.after (calls ++ [x])).next⟩
  /-- No number is given twice. -/
  numbered : ∀ before x since entry d, calls = before ++ x :: since →
    (empty.after before).Stores x entry d →
    d.number < (empty.after calls).next

/-- After every history of calls a name comes to the definition stored last in
its entry, or to what is built in, or to an error, and to the same under every
spelling until the entry is touched. -/
theorem lookups_settled (calls : List Call) (selector : String) :
    Lookups calls selector where
  interchangeable others hothers x y hxy := by
    rw [after_sameForm hothers, call_sameForm hxy]
  stored d h := by
    have hthere := find?_after_iff.mpr h
    exact ⟨hthere, getOrDefine_of_stored hthere⟩
  defined h := by
    have habsent : (empty.after calls).get? selector = none :=
      Option.eq_none_iff_forall_ne_some.mpr fun d hd =>
        h ⟨d, find?_after_iff.mp hd⟩
    refine ⟨habsent, fun hname => ?_, fun hname => ?_⟩
    · obtain ⟨kind, hbuiltin⟩ := builtin_of_mem hname
      refine ⟨kind, _, hbuiltin, rfl,
        getOrDefine_of_builtin habsent hbuiltin, ?_⟩
      exact ⟨calls, _, [], rfl, .defined habsent hbuiltin, nofun⟩
    · exact getOrDefine_of_unknown habsent (builtin_of_not_mem hname)
  looking := rfl
  again other between hother huntouched := by
    have hanswers := ((empty.after calls).answers_getOrDefine selector).after
      huntouched
    rw [← hother] at hanswers
    have hgiven := congrArg Prod.fst hanswers.getOrDefine
    rw [after_append]
    exact hgiven
  shadowed name kind since hname huntouched := by
    have hlast : LastStored (calls ++ .register name kind :: since)
        (entryName selector) ⟨kind, (empty.after calls).next⟩ :=
      ⟨calls, _, since, rfl, hname ▸ .registered name kind, huntouched⟩
    rw [getOrDefine_of_stored (find?_after_iff.mpr hlast)]
  unshadowed x hdrops hname := by
    have habsent : (empty.after (calls ++ [x])).get? selector = none := by
      rw [after_append]
      exact find?_call_drops hdrops
    obtain ⟨kind, hbuiltin⟩ := builtin_of_mem hname
    refine ⟨kind, hbuiltin, ?_⟩
    rw [getOrDefine_of_builtin habsent hbuiltin]
  numbered before x since entry d hcalls hstores := by
    obtain ⟨hnumber, hstore⟩ := hstores.eq_store
    rw [hcalls, after_append, hnumber]
    show _ < (((empty.after before).call x).2.after since).next
    rw [hstore]
    exact Nat.lt_of_succ_le
      (((empty.after before).store entry d.kind).next_le_after since)

/-- A kind of its own, for a name that has a built-in one. -/
def homonym : ParserKind := ⟨"mine", [], [], [], []⟩

/-- Registered under one spelling it is given under another, and under a third
it is removed. Then the built-in kind is defined, and only once. -/
theorem lookups_settled_homonym :
    LastStored [.register "Basic" homonym] "basic" ⟨homonym, 0⟩
    ∧ ((empty.after [.register "Basic" homonym]).getOrDefine "BASIC").1
      = .ok ⟨homonym, 0⟩
    ∧ ∃ kind, Parser.builtin "basic" = .ok kind
      ∧ ((empty.after [.register "Basic" homonym,
          .remove "basic"]).getOrDefine "BASIC").1 = .ok ⟨kind, 1⟩
      ∧ ((empty.after [.register "Basic" homonym, .remove "basic",
          .getOrDefine "BASIC", .get "basic"]).getOrDefine "Basic").1
        = .ok ⟨kind, 1⟩ := by
  have hentry : entryName "Basic" = "basic" := by decide +kernel
  have hupper : entryName "BASIC" = "basic" := by decide +kernel
  have hlower : entryName "basic" = "basic" := by decide +kernel
  have hname : entryName "BASIC" ∈ Parser.builtinNames := by
    rw [hupper]
    exact .head _
  have hregistered := lookups_settled [.register "Basic" homonym] "BASIC"
  have hremoved :=
    lookups_settled [.register "Basic" homonym, .remove "basic"] "BASIC"
  have hlast : LastStored [.register "Basic" homonym] (entryName "BASIC")
      ⟨homonym, 0⟩ :=
    ⟨[], _, [], rfl, hupper ▸ hentry ▸ .registered "Basic" homonym, nofun⟩
  obtain ⟨kind, hbuiltin, hdefined⟩ :=
    hregistered.unshadowed (.remove "basic") (hlower.trans hupper.symm) hname
  have hagain := hremoved.again "Basic" [.get "basic"]
    (hentry.trans hupper.symm) (by
      intro x hx
      rw [List.mem_singleton.mp hx]
      exact fun h => h.elim id id)
  rw [hupper] at hlast hbuiltin
  refine ⟨hlast, ?_, kind, hbuiltin, hdefined, ?_⟩
  · exact congrArg Prod.fst (hregistered.stored _ (hupper ▸ hlast)).2
  · exact hagain.trans hdefined

end Logline.ParserCache
