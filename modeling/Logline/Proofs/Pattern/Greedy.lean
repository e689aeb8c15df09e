/-
How much a greedy group takes.

A pattern with a group is greedy for it if it prefers its ways by how much
the group takes, those with more first, and has a way with as much for every
match (`Greedy`). A group of any number of characters is greedy for itself.
What can be matched in one way only may come before such a pattern, and what
does not have the group may follow it (`Greedy.behind`, `Greedy.before`).
Where a sequence drops all but the first way to a place, the one that it
keeps is the one whose group takes most.

Since a search takes the first way, the group then holds the longest text
that it holds in any match at that place (`Greedy.search_longest`).
-/
import Logline.Proofs.Pattern.Anchored
import Logline.Proofs.Pattern.Groups

namespace Logline.Pattern

-- ============================================================== extents

/-- How long the text is that a group holds. -/
def extent (group : String) (texts : Texts) : Nat :=
  ((Entries.find? group texts).getD []).length

namespace Way

/-- How much a group has taken on a way. -/
def extent (group : String) (e : Way) : Nat :=
  Pattern.extent group (e.captures.map Capture.text)

/-- Ways by how much a group has taken, those with more first. -/
def Descending (group : String) (ways : List Way) : Prop :=
  ways.Pairwise fun e f => f.extent group ≤ e.extent group

end Way

section

variable {group : String} {names : List String} {w e : Way}
  {ways : List Way} {seen : Positions} {first second : Texts}

theorem find?_unnamed {texts : Texts} (h : ∀ t ∈ texts, t.1 ≠ group) :
    Entries.find? group texts = none := by
  rw [Entries.find?_eq_none_iff]
  intro hmem
  obtain ⟨t, ht, hname⟩ := List.mem_map.mp hmem
  exact h t ht hname

/-- Texts of other groups do not count, be they later ones or earlier. -/
theorem extent_later (h : ∀ t ∈ first, t.1 ≠ group) :
    extent group (first ++ second) = extent group second := by
  unfold extent
  rw [Entries.find?_append, find?_unnamed h, Option.none_or]

theorem extent_earlier (h : ∀ t ∈ second, t.1 ≠ group) :
    extent group (first ++ second) = extent group first := by
  unfold extent
  rw [Entries.find?_append, find?_unnamed h, Option.or_none]

theorem Adds.extent_eq (h : Adds names w e) (hgroup : group ∉ names) :
    e.extent group = w.extent group := by
  obtain ⟨new, hnew, hnames⟩ := h
  unfold Way.extent
  rw [hnew, List.map_append]
  apply extent_later
  intro t ht hname
  obtain ⟨c, hc, rfl⟩ := List.mem_map.mp ht
  exact hgroup (hname ▸ hnames c hc)

-- =============================================================== firsts

theorem firsts_sublist (seen : Positions) (ways : List Way) :
    (firsts seen ways).Sublist ways := by
  induction ways generalizing seen with
  | nil => exact .slnil
  | cons w rest ih =>
      unfold firsts
      split
      · exact (ih seen).cons w
      · exact (ih _).cons_cons w

/-- Of ways in this order the first to a position has taken most. -/
theorem exists_mem_firsts_extent (hways : Way.Descending group ways)
    (he : e ∈ ways) (hnew : seen.holds e.place.position = false) :
    ∃ f ∈ firsts seen ways, f.place.position = e.place.position
      ∧ e.extent group ≤ f.extent group := by
  induction ways generalizing seen with
  | nil => cases he
  | cons w rest ih =>
      obtain ⟨hhead, hrest⟩ := List.pairwise_cons.mp hways
      unfold firsts
      rcases List.mem_cons.mp he with rfl | hmem
      · rw [if_neg (by simp [hnew])]
        exact ⟨e, .head _, rfl, Nat.le_refl _⟩
      · split
        · exact ih hrest hmem hnew
        · by_cases hsame : w.place.position = e.place.position
          · exact ⟨w, .head _, hsame, hhead e hmem⟩
          · have hadded : (seen.add w.place.position).holds
                e.place.position = false := by
              simp [Positions.holds_add, hnew, hsame]
            obtain ⟨f, hf, hposition, hextent⟩ := ih hrest hmem hadded
            exact ⟨f, .tail _ hf, hposition, hextent⟩

end

namespace Node

-- ============================================================ greediness

/-- A match holds texts of groups of the pattern. -/
theorem Matches.names {node : Node} {before : Option Char}
    {piece rest : List Char} {texts : Texts}
    (h : node.Matches before piece rest texts) :
    ∀ t ∈ texts, t.1 ∈ node.names := by
  induction h with
  | @seq x y _ _ _ _ texts texts' _ _ ihx ihy =>
      intro t ht
      rcases List.mem_append.mp ht with ht | ht
      · exact mem_names_of_mem_right (ihy t ht)
      · exact List.mem_append_left _ (ihx t ht)
  | preferred _ ih =>
      intro t ht
      exact List.mem_append_left _ (ih t ht)
  | other _ ih =>
      intro t ht
      exact mem_names_of_mem_right (ih t ht)
  | group _ ih =>
      intro t ht
      rcases List.mem_cons.mp ht with rfl | ht
      · exact .head _
      · exact mem_names_of_mem_body (ih t ht)
  | _ =>
      intro t ht
      cases ht

/-- A pattern that prefers its ways by how much a group takes, and that for
every match has a way on which the group takes as much. -/
structure Greedy (group : String) (node : Node) : Prop where
  flat : node.flat = true
  descending : ∀ w, Way.Descending group (node.ways w)
  reaches : ∀ {before : Option Char} {piece rest : List Char} {texts : Texts},
    node.Matches before piece rest texts →
    ∀ (position : Nat) (captures : List Capture),
      ∃ e ∈ node.ways ⟨⟨before, piece ++ rest, position⟩, captures⟩,
        e.place = ⟨last before piece, rest, position + piece.length⟩
        ∧ extent group texts ≤ e.extent group

section

variable {group : String} {node x y : Node} {a : CharClass}

/-- Of the ways to one place, in this order, one is kept on which the group
takes as much. -/
theorem exists_first_extent (hflat : node.flat = true) {w e : Way}
    {ways : List Way} (hways : node.ways w = firsts .none ways)
    (hdescending : Way.Descending group ways) (he : e ∈ ways)
    {piece rest : List Char} (hrest : w.place.rest = piece ++ rest)
    (hplace : e.place = ⟨last w.place.before piece, rest,
      w.place.position + piece.length⟩) :
    ∃ f ∈ node.ways w, f.place = ⟨last w.place.before piece, rest,
        w.place.position + piece.length⟩
      ∧ e.extent group ≤ f.extent group := by
  obtain ⟨f, hf, hposition, hextent⟩ :=
    exists_mem_firsts_extent hdescending he (Positions.holds_none _)
  rw [← hways] at hf
  obtain ⟨found, new, c⟩ := node.ways_covers hflat hf
  exact ⟨f, hf, c.place hrest (by rw [hposition, hplace]), hextent⟩

-- ============================================================== a group

theorem runPlaces_ascending (a : CharClass) (position : Nat)
    (text : List Char) : (runPlaces a position text).Pairwise
      fun p q => p.position ≤ q.position := by
  induction text generalizing position with
  | nil => exact .nil
  | cons c text ih =>
      unfold runPlaces
      split
      · refine List.pairwise_cons.mpr ⟨?_, ih _⟩
        intro p hp
        obtain ⟨piece, -, -, -, -, hposition⟩ := mem_runPlaces.mp hp
        show position + 1 ≤ p.position
        omega
      · exact .nil

/-- Any number of characters are taken as many as there are, then fewer and
fewer. -/
theorem stars_descending (w : Way) :
    ((stars true a).ways w).Pairwise
      fun e f => f.place.position ≤ e.place.position := by
  have hruns : ((Node.run true a).ways w).Pairwise
      fun e f => f.place.position ≤ e.place.position := by
    show (((runPlaces a w.place.position w.place.rest).reverse).map
      (⟨·, w.captures⟩ : Place → Way)).Pairwise _
    rw [List.pairwise_map, List.pairwise_reverse]
    exact runPlaces_ascending _ _ _
  refine List.Pairwise.sublist (firsts_sublist _ _) ?_
  refine List.pairwise_append.mpr ⟨hruns, List.pairwise_singleton _ _, ?_⟩
  intro e he f hf
  obtain rfl := List.mem_singleton.mp hf
  obtain ⟨piece, new, c⟩ := (Node.run true a).ways_covers rfl he
  have hposition := c.position
  omega

/-- A group of any number of characters is greedy for itself. -/
theorem Greedy.stars (group : String) (a : CharClass) :
    Greedy group (.group group (stars true a)) where
  flat := rfl
  descending w := by
    show (((Node.stars true a).ways w).map _).Pairwise _
    rw [List.pairwise_map]
    refine (stars_descending w).imp ?_
    intro e f hle
    simp only [Way.extent, Pattern.extent, List.map_cons, Capture.text,
      Entries.find?, if_true, Option.getD_some, List.length_take]
    omega
  reaches := by
    intro before piece rest texts h position captures
    obtain ⟨e, he, hplace⟩ := h.way rfl position captures
    refine ⟨e, he, hplace, ?_⟩
    obtain ⟨inner, rfl, -⟩ := matches_group.mp h
    obtain ⟨m, -, rfl⟩ := List.mem_map.mp he
    have hm : m.place.position = position + piece.length :=
      congrArg Place.position hplace
    simp only [Way.extent, Pattern.extent, List.map_cons, Capture.text,
      Entries.find?, if_true, Option.getD_some, List.length_take,
      List.length_append, hm]
    omega

-- ============================================================ sequences

/-- Whether a pattern can match in one way only. -/
def single : Node → Bool
  | .empty => true
  | .chars _ => true
  | .anchor _ => true
  | .seq a b => single a && single b
  | _ => false

theorem single_ways (h : node.single = true) (w : Way) :
    node.ways w = [] ∨ ∃ e, node.ways w = [e] := by
  induction node generalizing w with
  | empty => exact .inr ⟨w, rfl⟩
  | chars a =>
      unfold ways
      split
      · exact .inl rfl
      · split
        · exact .inr ⟨_, rfl⟩
        · exact .inl rfl
  | anchor a =>
      unfold ways
      split
      · exact .inr ⟨w, rfl⟩
      · exact .inl rfl
  | seq x y ihx ihy =>
      obtain ⟨hx, hy⟩ := Bool.and_eq_true_iff.mp h
      unfold ways
      rcases ihx hx w with hnone | ⟨m, hm⟩
      · rw [hnone]
        exact .inl rfl
      · rw [hm, List.flatMap_singleton]
        rcases ihy hy m with hnone | ⟨e, he⟩
        · rw [hnone]
          exact .inl rfl
        · rw [he]
          refine .inr ⟨e, ?_⟩
          simp [firsts, Positions.holds_none]
  | _ => cases h

/-- A sequence is greedy if its ways come in this order before any is
dropped, and enough of them are there. -/
theorem Greedy.seq (hx : x.flat = true) (hy : y.flat = true)
    (hways : ∀ w, Way.Descending group ((x.ways w).flatMap y.ways))
    (hreaches : ∀ {before : Option Char} {first second rest : List Char}
      {left right : Texts}, x.Matches before first (second ++ rest) left →
      y.Matches (last before first) second rest right →
      ∀ (position : Nat) (captures : List Capture),
        ∃ m ∈ x.ways ⟨⟨before, first ++ (second ++ rest), position⟩, captures⟩,
          ∃ e ∈ y.ways m, e.place = ⟨last (last before first) second, rest,
              position + first.length + second.length⟩
            ∧ extent group (right ++ left) ≤ e.extent group) :
    Greedy group (.seq x y) := by
  have hflat : (Node.seq x y).flat = true :=
    Bool.and_eq_true_iff.mpr ⟨hx, hy⟩
  refine ⟨hflat, fun w => (hways w).sublist (firsts_sublist _ _), ?_⟩
  intro before piece rest texts h position captures
  obtain ⟨first, second, left, right, rfl, rfl, hfirst, hsecond⟩ :=
    matches_seq.mp h
  obtain ⟨m, hm, e, he, hplace, hextent⟩ :=
    hreaches hfirst hsecond position captures
  rw [← List.append_assoc] at hm
  have hall := List.mem_flatMap.mpr ⟨m, hm, he⟩
  obtain ⟨f, hf, hfplace, hfextent⟩ := exists_first_extent hflat rfl (hways _)
    hall rfl (hplace.trans (by
      rw [last_append, List.length_append, ← Nat.add_assoc]))
  exact ⟨f, hf, hfplace, Nat.le_trans hextent hfextent⟩

/-- A greedy pattern stays so behind one that matches in one way. -/
theorem Greedy.behind (hx : x.single = true) (hflat : x.flat = true)
    (hgroup : group ∉ x.names) (hy : Greedy group y) :
    Greedy group (.seq x y) := by
  refine .seq hflat hy.flat ?_ ?_
  · intro w
    rcases single_ways hx w with hnone | ⟨m, hm⟩
    · rw [hnone]
      exact .nil
    · rw [hm, List.flatMap_singleton]
      exact hy.descending m
  · intro before first second rest left right hfirst hsecond position captures
    obtain ⟨⟨place, between⟩, hm, rfl⟩ := hfirst.way hflat position captures
    obtain ⟨e, he, hplace, hextent⟩ :=
      hy.reaches hsecond (position + first.length) between
    refine ⟨_, hm, e, he, hplace, ?_⟩
    rw [extent_earlier]
    · exact hextent
    · intro t ht hname
      exact hgroup (hname ▸ hfirst.names t ht)

/-- A greedy pattern stays so before one without the group. -/
theorem Greedy.before (hx : Greedy group x) (hflat : y.flat = true)
    (hgroup : group ∉ y.names) : Greedy group (.seq x y) := by
  have hkept : ∀ {m e : Way}, e ∈ y.ways m →
      e.extent group = m.extent group :=
    fun he => (y.ways_adds he).extent_eq hgroup
  refine .seq hx.flat hflat ?_ ?_
  · intro w
    refine List.pairwise_flatMap.mpr ⟨?_, ?_⟩
    · intro m _
      apply List.pairwise_of_forall_mem_list
      intro e he f hf
      exact Nat.le_of_eq ((hkept hf).trans (hkept he).symm)
    · refine (hx.descending w).imp ?_
      intro m n hle e he f hf
      rw [hkept he, hkept hf]
      exact hle
  · intro before first second rest left right hfirst hsecond position captures
    obtain ⟨⟨place, between⟩, hm, rfl, hextent⟩ :=
      hx.reaches hfirst position captures
    obtain ⟨e, he, hplace⟩ :=
      hsecond.way hflat (position + first.length) between
    refine ⟨_, hm, e, he, hplace, ?_⟩
    rw [hkept he, extent_later]
    · exact hextent
    · intro t ht hname
      exact hgroup (hname ▸ hsecond.names t ht)

theorem Greedy.spell (h : Greedy group node) (text : List Char) :
    Greedy group (node.spell text) := by
  induction text generalizing node with
  | nil => exact h
  | cons c text ih => exact ih (h.before rfl List.not_mem_nil)

-- ============================================================= searches

/-- A search from a place where a greedy pattern matches gives its group as
much as any match from there does. -/
theorem Greedy.search_longest (h : Greedy group node) {before : Option Char}
    {position : Nat} {piece rest : List Char} {texts : Texts}
    (hmatch : node.Matches before piece rest texts) {captures : List Capture}
    (hsearch : node.search before position (piece ++ rest) = some captures) :
    extent group texts ≤ extent group (captures.map Capture.text) := by
  obtain ⟨e, he, -, hextent⟩ := h.reaches hmatch position []
  have hdescending := h.descending ⟨⟨before, piece ++ rest, position⟩, []⟩
  have hfirst : ∃ w, captures = w.captures ∧ ∃ more,
      node.ways ⟨⟨before, piece ++ rest, position⟩, []⟩ = w :: more := by
    cases hways : node.ways ⟨⟨before, piece ++ rest, position⟩, []⟩ with
    | nil =>
        rw [hways] at he
        cases he
    | cons w more =>
        refine ⟨w, ?_, more, rfl⟩
        generalize piece ++ rest = text at hsearch hways
        cases text with
        | nil =>
            unfold search at hsearch
            rw [hways] at hsearch
            exact (Option.some.inj hsearch).symm
        | cons c text =>
            unfold search at hsearch
            rw [hways] at hsearch
            exact (Option.some.inj hsearch).symm
  obtain ⟨w, rfl, more, hways⟩ := hfirst
  rw [hways] at he hdescending
  rcases List.mem_cons.mp he with rfl | hmem
  · exact hextent
  · exact Nat.le_trans hextent
      ((List.pairwise_cons.mp hdescending).1 e hmem)

end

end Node

end Logline.Pattern
