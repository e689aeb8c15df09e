/-
Which groups a match has texts for.

A way only adds to the captures that it starts with, and what it adds
belongs to groups of the pattern it is a way of (`Adds`, `ways_adds`). This
holds of every pattern, so the induction has to go through repetitions. They
collect ways from round to round, and each way that they collect is the
start or an end of a round; whatever holds of the start and is kept by every
round holds of all (`allRounds_ways`, `boundedRounds_ways`).

So a search has nothing for a group that the pattern does not have
(`captured?_unnamed`), and in the table of a match a group is worth what it
captured, whether it is a group of the pattern or not (`value_captures?`).
-/
import Logline.Proofs.Table
import Logline.Proofs.Pattern.Matches

namespace Logline.Pattern

-- ======================================================== repetitions

section

variable {P : Way → Prop} {greedy : Bool} {origin : Nat} {w e : Way}
  {ways : List Way} {found : Found}

/-- What holds of the ends of a round and of what is found from each of them
holds of all that is found. -/
theorem afterRound_ways {another : Way → Found → Found}
    (hanother : ∀ w found, P w → (∀ e ∈ found.ways, P e) →
      ∀ e ∈ (another w found).ways, P e)
    (hways : ∀ w ∈ ways, P w) (hfound : ∀ e ∈ found.ways, P e) :
    ∀ e ∈ (afterRound greedy origin another ways found).ways, P e := by
  induction ways generalizing found with
  | nil => exact hfound
  | cons w rest ih =>
      have hw : P w := hways w (.head _)
      have ih' : ∀ {found : Found}, (∀ e ∈ found.ways, P e) →
          ∀ e ∈ (afterRound greedy origin another rest found).ways, P e :=
        ih fun w hw => hways w (.tail _ hw)
      have hends : ∀ found : Found, (∀ e ∈ found.ways, P e) →
          ∀ e ∈ w :: found.ways, P e := by
        intro found hfound e he
        rcases List.mem_cons.mp he with rfl | he
        · exact hw
        · exact hfound e he
      unfold afterRound
      split
      · exact ih' hfound
      · dsimp only
        split
        · exact ih' (hends _ hfound)
        · split
          · exact ih' (hends _ (hanother w _ hw hfound))
          · exact ih' (hanother w _ hw (hends _ hfound))

theorem allRounds_ways {body : Way → List Way}
    (hbody : ∀ w, P w → ∀ e ∈ body w, P e) (rounds : Nat) (hw : P w)
    (hfound : ∀ e ∈ found.ways, P e) :
    ∀ e ∈ (allRounds greedy body origin rounds w found).ways, P e := by
  induction rounds generalizing w found with
  | zero => exact hfound
  | succ rounds ih =>
      unfold allRounds
      exact afterRound_ways (fun w found hw hfound => ih hw hfound)
        (hbody w hw) hfound

theorem boundedRounds_ways {body : Way → List Way} {most : Nat}
    (hbody : ∀ w, P w → ∀ e ∈ body w, P e) (left : Nat) (hw : P w)
    (hfound : ∀ e ∈ found.ways, P e) :
    ∀ e ∈ (boundedRounds greedy most body left w found).ways, P e := by
  induction left generalizing w found with
  | zero =>
      unfold boundedRounds
      dsimp only
      split
      · exact hfound
      · intro e he
        rcases List.mem_cons.mp he with rfl | he
        · exact hw
        · exact hfound e he
  | succ left ih =>
      -- from each end of a round it goes on with one round less
      have hrest : ∀ {ends : List Way} {found : Found}, (∀ e ∈ ends, P e) →
          (∀ e ∈ found.ways, P e) → ∀ e ∈ (ends.foldl (fun found e =>
            boundedRounds greedy most body left e found) found).ways, P e := by
        intro ends
        induction ends with
        | nil => exact fun _ hfound => hfound
        | cons first rest ihrest =>
            intro found hends hfound
            rw [List.foldl_cons]
            apply ihrest fun e he => hends e (.tail _ he)
            exact ih (hends first (.head _)) hfound
      have hends : ∀ {ways : List Way}, (∀ e ∈ ways, P e) →
          ∀ e ∈ w :: ways, P e := by
        intro ways hways e he
        rcases List.mem_cons.mp he with rfl | he
        · exact hw
        · exact hways e he
      unfold boundedRounds
      dsimp only
      split
      · exact hfound
      · split
        · exact hends (hrest (hbody w hw) hfound)
        · exact hrest (hbody w hw) (hends hfound)

end

-- ============================================================== groups

/-- A way adds captures of certain groups to those that it starts with. -/
def Adds (names : List String) (w e : Way) : Prop :=
  ∃ new, e.captures = new ++ w.captures ∧ ∀ c ∈ new, c.name ∈ names

section

variable {names more : List String} {w m e : Way}

theorem Adds.nothing (h : e.captures = w.captures) : Adds names w e :=
  ⟨[], h, List.forall_mem_nil _⟩

theorem Adds.trans (hfirst : Adds names w m) (hsecond : Adds names m e) :
    Adds names w e := by
  obtain ⟨left, hleft, hnames⟩ := hfirst
  obtain ⟨right, hright, hnames'⟩ := hsecond
  refine ⟨right ++ left, ?_, ?_⟩
  · rw [hright, hleft, List.append_assoc]
  · intro c hc
    rcases List.mem_append.mp hc with hc | hc
    · exact hnames' c hc
    · exact hnames c hc

theorem Adds.mono (h : Adds names w e) (hnames : names ⊆ more) :
    Adds more w e := by
  obtain ⟨new, hnew, hall⟩ := h
  exact ⟨new, hnew, fun c hc => hnames (hall c hc)⟩

end

namespace Node

/-- The names of two patterns are among those that both have together. -/
theorem mem_names_of_mem_right {a b : Node} {name : String}
    (h : name ∈ b.names) :
    name ∈ a.names ++ b.names.filter (!a.names.contains ·) := by
  by_cases ha : name ∈ a.names
  · exact List.mem_append_left _ ha
  · apply List.mem_append_right
    simp [h, ha]

theorem mem_names_of_mem_body {body : Node} {group name : String}
    (h : name ∈ body.names) : name ∈ (Node.group group body).names := by
  by_cases hname : name = group
  · rw [hname]
    exact .head _
  · apply List.mem_cons_of_mem
    simp [h, hname]

/-- The ways of a pattern add captures of its groups. -/
theorem ways_adds (node : Node) {w e : Way} (h : e ∈ node.ways w) :
    Adds node.names w e := by
  induction node generalizing w e with
  | empty =>
      cases List.mem_singleton.mp h
      exact .nothing rfl
  | chars a =>
      unfold ways at h
      split at h
      · cases h
      · split at h
        · cases List.mem_singleton.mp h
          exact .nothing rfl
        · cases h
  | anchor a =>
      unfold ways at h
      split at h
      · cases List.mem_singleton.mp h
        exact .nothing rfl
      · cases h
  | seq a b iha ihb =>
      obtain ⟨m, hm, he⟩ := List.mem_flatMap.mp (mem_of_mem_firsts h)
      have hfirst : Adds (seq a b).names w m :=
        (iha hm).mono (List.subset_append_left _ _)
      exact hfirst.trans ((ihb he).mono fun _ => mem_names_of_mem_right)
  | alt a b iha ihb =>
      rcases List.mem_append.mp (mem_of_mem_firsts h) with he | he
      · exact (iha he).mono (List.subset_append_left _ _)
      · exact (ihb he).mono fun _ => mem_names_of_mem_right
  | run greedy a =>
      obtain ⟨place, -, rfl⟩ := List.mem_map.mp h
      exact .nothing rfl
  | many greedy body ih =>
      have hbody : ∀ m, Adds body.names w m → ∀ e ∈ body.ways m,
          Adds body.names w e := fun m hm e he => hm.trans (ih he)
      exact allRounds_ways hbody _ (.nothing rfl) (List.forall_mem_nil _) e
        (List.mem_reverse.mp h)
  | upTo greedy most body ih =>
      have hbody : ∀ m, Adds body.names w m → ∀ e ∈ body.ways m,
          Adds body.names w e := fun m hm e he => hm.trans (ih he)
      exact boundedRounds_ways hbody _ (.nothing rfl) (List.forall_mem_nil _) e
        (List.mem_reverse.mp (mem_of_mem_firsts h))
  | group name body ih =>
      obtain ⟨inner, hinner, rfl⟩ := List.mem_map.mp h
      obtain ⟨new, hnew, hnames⟩ := ih hinner
      refine ⟨_ :: new, congrArg (_ :: ·) hnew, ?_⟩
      intro c hc
      rcases List.mem_cons.mp hc with rfl | hc
      · exact .head _
      · exact mem_names_of_mem_body (hnames c hc)

/-- What a search finds are texts of groups of the pattern. -/
theorem search_names {node : Node} {before : Option Char} {position : Nat}
    {text : List Char} {captures : List Capture}
    (h : node.search before position text = some captures) :
    ∀ c ∈ captures, c.name ∈ node.names := by
  have here : ∀ {place : Place} {w : Way}, w ∈ node.ways ⟨place, []⟩ →
      ∀ c ∈ w.captures, c.name ∈ node.names := by
    intro place w hw
    obtain ⟨new, hnew, hnames⟩ := node.ways_adds hw
    rw [hnew, List.append_nil]
    exact hnames
  induction text generalizing before position with
  | nil =>
      unfold search at h
      obtain ⟨w, hw, rfl⟩ := Option.map_eq_some_iff.mp h
      exact here (List.mem_of_head? hw)
  | cons c text ih =>
      unfold search at h
      split at h
      · rename_i w more hways
        cases h
        apply here
        rw [hways]
        exact .head _
      · exact ih h

end Node

-- ============================================================== tables

theorem captured?_unnamed {name : String} {captures : List Capture}
    (h : ∀ c ∈ captures, c.name ≠ name) : captured? name captures = none := by
  induction captures with
  | nil => rfl
  | cons c rest ih =>
      unfold captured?
      rw [if_neg (h c (.head _))]
      exact ih fun c hc => h c (.tail _ hc)

/-- In the table of a match a group is worth what it captured, and so is a
group that the pattern does not have: nothing. -/
theorem value_captures? {p : Pattern} {text : String} {found : List Capture}
    (h : p.match? text = some found) :
    ∃ table, p.captures? text = some table
      ∧ ∀ name, Table.value table (.str name) = captureValue found name := by
  unfold captures?
  rw [h, Option.map_some]
  refine ⟨_, rfl, fun name => ?_⟩
  generalize htable : OrderedMap.ofList (p.node.names.map fun name =>
    (Key.str name, captureValue found name)) = table
  have hentry : ∀ {key : Key} {value : Value}, table.find? key = some value →
      key = .str key.name ∧ value = captureValue found key.name := by
    intro key value hkey
    rw [← htable] at hkey
    obtain ⟨name, -, heq⟩ :=
      List.mem_map.mp (OrderedMap.mem_of_find?_ofList hkey)
    cases heq
    exact ⟨rfl, rfl⟩
  show ([Key.str name, .str name, .sym (symbolName name)].findSome?
    table.find?).getD .nil = _
  cases hstr : table.find? (.str name) with
  | some value =>
      rw [List.findSome?_cons, hstr]
      exact (hentry hstr).2
  | none =>
      have hsym : table.find? (.sym (symbolName name)) = none := by
        cases hsym : table.find? (.sym (symbolName name)) with
        | none => rfl
        | some value => cases (hentry hsym).1
      have hunnamed : name ∉ p.node.names := by
        intro hmem
        rw [← htable, OrderedMap.find?_ofList,
          Entries.find?_eq_none_iff] at hstr
        apply hstr
        simpa [Entries.keys] using hmem
      have hnothing : captured? name found = none :=
        captured?_unnamed fun c hc hname =>
          hunnamed (hname ▸ Node.search_names h c hc)
      unfold captureValue
      simp only [List.findSome?_cons, List.findSome?_nil, hstr, hsym,
        hnothing]
      rfl

/-- What is read there as the text of a group is what it captured. -/
theorem text?_captures? (p : Pattern) (text name : String) :
    (p.captures? text).bind (Table.text? · (.str name))
      = ((p.match? text).bind (captured? name)).map String.ofList := by
  cases hmatch : p.match? text with
  | none =>
      unfold captures?
      rw [hmatch]
      rfl
  | some found =>
      obtain ⟨table, htable, hvalue⟩ := value_captures? hmatch
      rw [htable, Option.bind_some, Option.bind_some, Table.text?_eq_value,
        hvalue]
      unfold captureValue
      cases captured? name found with
      | none => rfl
      | some text => rfl

end Logline.Pattern
