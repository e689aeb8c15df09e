/-
What a pattern matches, whatever way it prefers.

`Node.Matches` says which piece of a text a pattern covers behind a
character and before a rest, and which texts its groups then hold. It knows
nothing of preferences and of ways that are dropped since they end where an
earlier one does.

A search agrees with it: what it finds is a match (`search_matches`), and
where there is one it finds some (`search_isSome`). This is carried by two
inductions, one over the pattern, from the ways to the matches
(`ways_covers`), and one over the match, from the match to a way
(`Matches.way`). The second needs the first, since a sequence drops all but
the first way to a place, and only the first says that ways to one position
lead to one place.

A pattern without repetitions of more than single characters is flat, and
only of such patterns is this said.
-/
import Logline.Pattern

namespace Logline.Pattern

/-- The texts that groups hold, that of the last group first. -/
abbrev Texts := List (String × List Char)

/-- The last character of a piece, or the one before it. -/
def last (before : Option Char) (piece : List Char) : Option Char :=
  piece.getLast?.or before

@[simp] theorem last_nil (before : Option Char) : last before [] = before :=
  rfl

theorem last_append (before : Option Char) (first second : List Char) :
    last before (first ++ second) = last (last before first) second := by
  unfold last
  rw [List.getLast?_append, Option.or_assoc]

theorem last_cons (before : Option Char) (c : Char) (piece : List Char) :
    last before (c :: piece) = last (some c) piece :=
  last_append before [c] piece

theorem last_none {piece : List Char} (h : last none piece = none) :
    piece = [] := by
  unfold last at h
  rw [Option.or_none] at h
  exact List.getLast?_eq_none_iff.mp h

/-- What a capture says: the name of the group and its text. -/
def Capture.text (c : Capture) : String × List Char :=
  (c.name, c.start.take c.width)

namespace Node

-- ============================================================ matches

/-- Behind a character and before a rest a pattern covers a piece, and its
groups hold these texts. -/
inductive Matches : Node → Option Char → List Char → List Char → Texts → Prop
  | empty {before : Option Char} {rest : List Char} :
      Matches .empty before [] rest []
  | chars {a : CharClass} {before : Option Char} {c : Char}
      {rest : List Char} (holds : a.holds c = true) :
      Matches (.chars a) before [c] rest []
  | anchor {a : Anchor} {before : Option Char} {rest : List Char}
      (holds : a.holds before rest.head? = true) :
      Matches (.anchor a) before [] rest []
  | seq {x y : Node} {before : Option Char} {first second rest : List Char}
      {texts texts' : Texts}
      (left : Matches x before first (second ++ rest) texts)
      (right : Matches y (last before first) second rest texts') :
      Matches (.seq x y) before (first ++ second) rest (texts' ++ texts)
  | preferred {x y : Node} {before : Option Char} {piece rest : List Char}
      {texts : Texts} (inner : Matches x before piece rest texts) :
      Matches (.alt x y) before piece rest texts
  | other {x y : Node} {before : Option Char} {piece rest : List Char}
      {texts : Texts} (inner : Matches y before piece rest texts) :
      Matches (.alt x y) before piece rest texts
  | run {greedy : Bool} {a : CharClass} {before : Option Char}
      {piece rest : List Char} (nonempty : piece ≠ [])
      (holds : ∀ c ∈ piece, a.holds c = true) :
      Matches (.run greedy a) before piece rest []
  | group {name : String} {body : Node} {before : Option Char}
      {piece rest : List Char} {texts : Texts}
      (inner : Matches body before piece rest texts) :
      Matches (.group name body) before piece rest ((name, piece) :: texts)

/-- Whether a pattern repeats nothing but single characters. -/
def flat : Node → Bool
  | .seq a b => flat a && flat b
  | .alt a b => flat a && flat b
  | .many _ _ => false
  | .upTo _ _ _ => false
  | .group _ body => flat body
  | _ => true

section

variable {x y body : Node} {a : CharClass} {name : String} {greedy : Bool}
  {before : Option Char} {piece rest : List Char} {texts : Texts}

theorem matches_empty :
    Matches .empty before piece rest texts ↔ piece = [] ∧ texts = [] := by
  constructor
  · intro h
    cases h
    exact ⟨rfl, rfl⟩
  · rintro ⟨rfl, rfl⟩
    exact .empty

theorem matches_chars :
    Matches (.chars a) before piece rest texts
      ↔ ∃ c, piece = [c] ∧ a.holds c = true ∧ texts = [] := by
  constructor
  · intro h
    cases h with
    | chars holds => exact ⟨_, rfl, holds, rfl⟩
  · rintro ⟨c, rfl, holds, rfl⟩
    exact .chars holds

theorem matches_anchor {a : Anchor} :
    Matches (.anchor a) before piece rest texts
      ↔ piece = [] ∧ a.holds before rest.head? = true ∧ texts = [] := by
  constructor
  · intro h
    cases h with
    | anchor holds => exact ⟨rfl, holds, rfl⟩
  · rintro ⟨rfl, holds, rfl⟩
    exact .anchor holds

theorem matches_seq :
    Matches (.seq x y) before piece rest texts
      ↔ ∃ first second left right, piece = first ++ second
        ∧ texts = right ++ left
        ∧ Matches x before first (second ++ rest) left
        ∧ Matches y (last before first) second rest right := by
  constructor
  · intro h
    cases h with
    | seq left right => exact ⟨_, _, _, _, rfl, rfl, left, right⟩
  · rintro ⟨first, second, left, right, rfl, rfl, hx, hy⟩
    exact .seq hx hy

theorem matches_alt :
    Matches (.alt x y) before piece rest texts
      ↔ Matches x before piece rest texts
        ∨ Matches y before piece rest texts := by
  constructor
  · intro h
    cases h with
    | preferred h => exact .inl h
    | other h => exact .inr h
  · rintro (h | h)
    · exact .preferred h
    · exact .other h

theorem matches_run :
    Matches (.run greedy a) before piece rest texts
      ↔ piece ≠ [] ∧ (∀ c ∈ piece, a.holds c = true) ∧ texts = [] := by
  constructor
  · intro h
    cases h with
    | run nonempty holds => exact ⟨nonempty, holds, rfl⟩
  · rintro ⟨nonempty, holds, rfl⟩
    exact .run nonempty holds

theorem matches_group :
    Matches (.group name body) before piece rest texts
      ↔ ∃ inner, texts = (name, piece) :: inner
        ∧ Matches body before piece rest inner := by
  constructor
  · intro h
    cases h with
    | group h => exact ⟨_, rfl, h⟩
  · rintro ⟨inner, rfl, h⟩
    exact .group h

end

end Node

-- ====================================================== from ways to matches

section

variable {seen : Positions} {w e : Way} {ways : List Way}

theorem mem_of_mem_firsts (h : e ∈ firsts seen ways) : e ∈ ways := by
  induction ways generalizing seen with
  | nil => exact h
  | cons first rest ih =>
      rw [firsts] at h
      split at h
      · exact .tail _ (ih h)
      · rcases List.mem_cons.mp h with rfl | hrest
        · exact .head _
        · exact .tail _ (ih hrest)

/-- A way is among the first ones, or an earlier one to its position is. -/
theorem exists_mem_firsts (h : e ∈ ways)
    (hnew : seen.holds e.place.position = false) :
    ∃ f ∈ firsts seen ways, f.place.position = e.place.position := by
  induction ways generalizing seen with
  | nil => cases h
  | cons first rest ih =>
      rw [firsts]
      rcases List.mem_cons.mp h with rfl | hrest
      · rw [if_neg (by rw [hnew]; exact Bool.false_ne_true)]
        exact ⟨e, .head _, rfl⟩
      · split
        · exact ih hrest hnew
        · by_cases hsame : first.place.position = e.place.position
          · exact ⟨first, .head _, hsame⟩
          · have hadded : (seen.add first.place.position).holds
                e.place.position = false := by
              rw [Positions.holds_add, hnew, Bool.or_false]
              exact beq_eq_false_iff_ne.mpr hsame
            obtain ⟨f, hf, hposition⟩ := ih hrest hadded
            exact ⟨f, .tail _ hf, hposition⟩

/-- The places of a run are behind its pieces. -/
theorem mem_runPlaces {a : CharClass} {position : Nat} {text : List Char}
    {p : Place} :
    p ∈ runPlaces a position text
      ↔ ∃ piece, piece ≠ [] ∧ text = piece ++ p.rest
        ∧ (∀ c ∈ piece, a.holds c = true)
        ∧ p.before = piece.getLast? ∧ p.position = position + piece.length := by
  induction text generalizing position with
  | nil =>
      constructor
      · intro h
        cases h
      · rintro ⟨piece, hsome, htext, -⟩
        exact absurd (List.append_eq_nil_iff.mp htext.symm).1 hsome
  | cons c text ih =>
      rw [runPlaces]
      cases hc : a.holds c with
      | false =>
          constructor
          · intro h
            cases h
          · rintro ⟨piece, hsome, htext, holds, -⟩
            obtain ⟨d, more, rfl⟩ := List.exists_cons_of_ne_nil hsome
            have hcd : c = d := (List.cons.inj htext).1
            rw [hcd, holds d (.head _)] at hc
            cases hc
      | true =>
          rw [if_pos rfl, List.mem_cons, ih]
          constructor
          · rintro (rfl | ⟨piece, hsome, rfl, holds, hbefore, hposition⟩)
            · refine ⟨[c], List.cons_ne_nil _ _, rfl, ?_, rfl, rfl⟩
              intro d hd
              rw [List.mem_singleton.mp hd, hc]
            · refine ⟨c :: piece, List.cons_ne_nil _ _, rfl, ?_, ?_, ?_⟩
              · intro d hd
                rcases List.mem_cons.mp hd with rfl | hd
                · exact hc
                · exact holds d hd
              · rw [hbefore, List.getLast?_cons_of_ne_nil hsome]
              · rw [hposition, List.length_cons]
                omega
          · rintro ⟨piece, hsome, htext, holds, hbefore, hposition⟩
            obtain ⟨d, more, rfl⟩ := List.exists_cons_of_ne_nil hsome
            obtain ⟨rfl, rfl⟩ := List.cons.inj htext
            cases more with
            | nil =>
                obtain ⟨before, rest, position'⟩ := p
                left
                simp_all
            | cons next more =>
                right
                refine ⟨next :: more, List.cons_ne_nil _ _, rfl,
                  fun c hc => holds c (.tail _ hc), ?_, ?_⟩
                · rw [hbefore]
                  exact List.getLast?_cons_of_ne_nil (List.cons_ne_nil _ _)
                · rw [hposition, List.length_cons]
                  omega

end

/-- From the end of one way to that of another a pattern covers a piece. -/
structure Covers (node : Node) (w e : Way) (piece : List Char)
    (new : List Capture) : Prop where
  rest : w.place.rest = piece ++ e.place.rest
  before : e.place.before = last w.place.before piece
  position : e.place.position = w.place.position + piece.length
  captures : e.captures = new ++ w.captures
  covered : node.Matches w.place.before piece e.place.rest
    (new.map Capture.text)

/-- Ways of two patterns, one behind the other, cover both pieces. -/
theorem Covers.seq {x y : Node} {w m e : Way} {first second : List Char}
    {left right : List Capture} (hx : Covers x w m first left)
    (hy : Covers y m e second right) :
    Covers (.seq x y) w e (first ++ second) (right ++ left) where
  rest := by rw [hx.rest, hy.rest, List.append_assoc]
  before := by rw [hy.before, hx.before, last_append]
  position := by rw [hy.position, hx.position, List.length_append, Nat.add_assoc]
  captures := by rw [hy.captures, hx.captures, List.append_assoc]
  covered := by
    have hleft := hx.covered
    have hright := hy.covered
    rw [hy.rest] at hleft
    rw [hx.before] at hright
    rw [List.map_append]
    exact .seq hleft hright

/-- A group holds the piece that its pattern covers. -/
theorem Covers.group {body : Node} {w e : Way} {piece : List Char}
    {new : List Capture} (h : Covers body w e piece new) (name : String) :
    let capture : Capture :=
      ⟨name, w.place.rest, e.place.position - w.place.position⟩
    Covers (.group name body) w ⟨e.place, capture :: e.captures⟩ piece
      (capture :: new) where
  rest := h.rest
  before := h.before
  position := h.position
  captures := congrArg (_ :: ·) h.captures
  covered := by
    have htext : Capture.text ⟨name, w.place.rest,
        e.place.position - w.place.position⟩ = (name, piece) := by
      unfold Capture.text
      rw [h.position, Nat.add_sub_cancel_left, h.rest, List.take_left]
    rw [List.map_cons, htext]
    exact .group h.covered

/-- Every way covers a piece. -/
theorem Node.ways_covers (node : Node) (hflat : node.flat = true)
    {w e : Way} (h : e ∈ node.ways w) : ∃ piece new, Covers node w e piece new := by
  induction node generalizing w e with
  | empty =>
      cases List.mem_singleton.mp h
      exact ⟨[], [], rfl, rfl, rfl, rfl, .empty⟩
  | chars a =>
      obtain ⟨⟨before, rest, position⟩, captures⟩ := w
      cases rest with
      | nil => cases h
      | cons c rest =>
          simp only [Node.ways] at h
          split at h
          · rename_i hc
            cases List.mem_singleton.mp h
            exact ⟨[c], [], rfl, rfl, rfl, rfl, .chars hc⟩
          · cases h
  | anchor a =>
      simp only [Node.ways] at h
      split at h
      · rename_i ha
        cases List.mem_singleton.mp h
        exact ⟨[], [], rfl, rfl, rfl, rfl, .anchor ha⟩
      · cases h
  | seq x y ihx ihy =>
      obtain ⟨hx, hy⟩ := Bool.and_eq_true_iff.mp hflat
      obtain ⟨m, hm, he⟩ := List.mem_flatMap.mp (mem_of_mem_firsts h)
      obtain ⟨first, left, cx⟩ := ihx hx hm
      obtain ⟨second, right, cy⟩ := ihy hy he
      exact ⟨first ++ second, right ++ left, cx.seq cy⟩
  | alt x y ihx ihy =>
      obtain ⟨hx, hy⟩ := Bool.and_eq_true_iff.mp hflat
      rcases List.mem_append.mp (mem_of_mem_firsts h) with he | he
      · obtain ⟨piece, new, c⟩ := ihx hx he
        exact ⟨piece, new, { c with covered := .preferred c.covered }⟩
      · obtain ⟨piece, new, c⟩ := ihy hy he
        exact ⟨piece, new, { c with covered := .other c.covered }⟩
  | run greedy a =>
      obtain ⟨p, hp, rfl⟩ := List.mem_map.mp h
      have hp' : p ∈ runPlaces a w.place.position w.place.rest := by
        cases greedy with
        | true => exact List.mem_reverse.mp hp
        | false => exact hp
      obtain ⟨piece, hsome, hrest, holds, hbefore, hposition⟩ :=
        mem_runPlaces.mp hp'
      refine ⟨piece, [], hrest, ?_, hposition, rfl, .run hsome holds⟩
      rw [hbefore, last, List.getLast?_eq_some_getLast hsome,
        Option.some_or]
  | many greedy body ih => cases hflat
  | upTo greedy most body ih => cases hflat
  | group name body ih =>
      obtain ⟨e, he, rfl⟩ := List.mem_map.mp h
      obtain ⟨piece, new, c⟩ := ih hflat he
      exact ⟨piece, _, c.group name⟩

/-- A way that covers as much as a piece covers that piece. -/
theorem Covers.place {node : Node} {w e : Way} {piece found rest : List Char}
    {new : List Capture} (h : Covers node w e found new)
    (hrest : w.place.rest = piece ++ rest)
    (hposition : e.place.position = w.place.position + piece.length) :
    e.place = ⟨last w.place.before piece, rest,
      w.place.position + piece.length⟩ := by
  have hlength : found.length = piece.length :=
    Nat.add_left_cancel (h.position.symm.trans hposition)
  obtain ⟨rfl, hsame⟩ :=
    List.append_inj (h.rest.symm.trans hrest) hlength
  rw [← h.before, ← hsame, ← h.position]

/-- Of the ways to one place, the first is kept, and leads to it. -/
theorem Node.exists_first {node : Node} (hflat : node.flat = true) {w e : Way}
    {ways : List Way} (hways : node.ways w = firsts .none ways) (he : e ∈ ways)
    {piece rest : List Char} (hrest : w.place.rest = piece ++ rest)
    (hplace : e.place = ⟨last w.place.before piece, rest,
      w.place.position + piece.length⟩) :
    ∃ f ∈ node.ways w, f.place = ⟨last w.place.before piece, rest,
      w.place.position + piece.length⟩ := by
  obtain ⟨f, hf, hposition⟩ := exists_mem_firsts he (Positions.holds_none _)
  rw [← hways] at hf
  obtain ⟨found, new, c⟩ := node.ways_covers hflat hf
  exact ⟨f, hf, c.place hrest (by rw [hposition, hplace])⟩

-- ====================================================== from matches to ways

/-- Where a pattern matches it has a way. -/
theorem Node.Matches.way {node : Node} {before : Option Char}
    {piece rest : List Char} {texts : Texts}
    (h : node.Matches before piece rest texts) (hflat : node.flat = true)
    (position : Nat) (captures : List Capture) :
    ∃ e ∈ node.ways ⟨⟨before, piece ++ rest, position⟩, captures⟩,
      e.place = ⟨last before piece, rest, position + piece.length⟩ := by
  induction h generalizing position captures with
  | empty => exact ⟨_, .head _, rfl⟩
  | chars holds =>
      simp only [Node.ways, List.cons_append, List.nil_append, holds, if_true]
      exact ⟨_, .head _, rfl⟩
  | anchor holds =>
      simp only [Node.ways, List.nil_append, holds, if_true]
      exact ⟨_, .head _, rfl⟩
  | @seq x y before first second rest texts texts' left right ihx ihy =>
      obtain ⟨hx, hy⟩ := Bool.and_eq_true_iff.mp hflat
      obtain ⟨⟨place, between⟩, hm, rfl⟩ := ihx hx position captures
      obtain ⟨e, he, hplace⟩ := ihy hy (position + first.length) between
      have hall : e ∈ (x.ways ⟨⟨before, (first ++ second) ++ rest, position⟩,
          captures⟩).flatMap y.ways := by
        rw [List.append_assoc]
        exact List.mem_flatMap.mpr ⟨_, hm, he⟩
      refine exists_first hflat rfl hall rfl (hplace.trans ?_)
      rw [last_append, List.length_append, ← Nat.add_assoc]
  | @preferred x y before piece rest texts _ ih =>
      obtain ⟨hx, hy⟩ := Bool.and_eq_true_iff.mp hflat
      obtain ⟨e, he, hplace⟩ := ih hx position captures
      exact exists_first hflat rfl (List.mem_append_left (y.ways _) he) rfl hplace
  | @other x y before piece rest texts _ ih =>
      obtain ⟨hx, hy⟩ := Bool.and_eq_true_iff.mp hflat
      obtain ⟨e, he, hplace⟩ := ih hy position captures
      exact exists_first hflat rfl (List.mem_append_right (x.ways _) he) rfl hplace
  | @run greedy a before piece rest hsome holds =>
      have hp : (⟨piece.getLast?, rest, position + piece.length⟩ : Place)
          ∈ runPlaces a position (piece ++ rest) :=
        mem_runPlaces.mpr ⟨piece, hsome, rfl, holds, rfl, rfl⟩
      have hlast : last before piece = piece.getLast? := by
        rw [last, List.getLast?_eq_some_getLast hsome, Option.some_or]
      rw [hlast]
      refine ⟨_, List.mem_map.mpr ⟨_, ?_, rfl⟩, rfl⟩
      cases greedy with
      | true => exact List.mem_reverse.mpr hp
      | false => exact hp
  | group _ ih =>
      obtain ⟨e, he, hplace⟩ := ih hflat position captures
      exact ⟨_, List.mem_map.mpr ⟨e, he, rfl⟩, hplace⟩

-- ============================================================= searches

section

variable {node : Node} {before : Option Char} {position : Nat}
  {text piece rest skipped : List Char} {texts : Texts}

/-- What a search finds is a match behind what it skipped. -/
theorem Node.search_matches (hflat : node.flat = true)
    {captures : List Capture}
    (h : node.search before position text = some captures) :
    ∃ skipped piece rest, text = skipped ++ (piece ++ rest)
      ∧ node.Matches (last before skipped) piece rest
          (captures.map Capture.text) := by
  -- the first way from a place is a match there
  have here : ∀ {before : Option Char} {position : Nat} {text : List Char}
      {w : Way}, w ∈ node.ways ⟨⟨before, text, position⟩, []⟩ →
      ∃ skipped piece rest, text = skipped ++ (piece ++ rest)
        ∧ node.Matches (last before skipped) piece rest
            (w.captures.map Capture.text) := by
    intro before position text w hw
    obtain ⟨piece, new, c⟩ := node.ways_covers hflat hw
    refine ⟨[], piece, w.place.rest, c.rest, ?_⟩
    rw [c.captures, List.append_nil]
    exact c.covered
  induction text generalizing before position with
  | nil =>
      rw [search] at h
      obtain ⟨w, hw, rfl⟩ := Option.map_eq_some_iff.mp h
      exact here (List.mem_of_head? hw)
  | cons c text ih =>
      rw [search] at h
      split at h
      · rename_i w more hways
        cases h
        have hw : w ∈ node.ways ⟨⟨before, c :: text, position⟩, []⟩ := by
          rw [hways]
          exact .head _
        exact here hw
      · obtain ⟨skipped, piece, rest, rfl, hmatch⟩ := ih h
        refine ⟨c :: skipped, piece, rest, rfl, ?_⟩
        rw [last_cons]
        exact hmatch

/-- Where there is a match a search finds one. -/
theorem Node.search_isSome (hflat : node.flat = true)
    (h : node.Matches (last before skipped) piece rest texts) :
    (node.search before position (skipped ++ (piece ++ rest))).isSome
      = true := by
  induction skipped generalizing before position with
  | nil =>
      obtain ⟨e, he, -⟩ := h.way hflat position []
      rw [last_nil] at he
      rw [List.nil_append]
      cases htext : piece ++ rest with
      | nil =>
          rw [htext] at he
          rw [search]
          cases hways : node.ways ⟨⟨before, [], position⟩, []⟩ with
          | nil =>
              rw [hways] at he
              cases he
          | cons w more => rfl
      | cons c text =>
          rw [htext] at he
          rw [search]
          cases hways : node.ways ⟨⟨before, c :: text, position⟩, []⟩ with
          | nil =>
              rw [hways] at he
              cases he
          | cons w more => rfl
  | cons c skipped ih =>
      rw [last_cons] at h
      rw [List.cons_append, search]
      split
      · rfl
      · exact ih h

end

end Logline.Pattern
