/-
How a log is cut into lines.

Bytes are cut first and decoded line by line, a text is cut as it is, and
the two must come to the same lines. They do, since a line feed stays one
when bytes are decoded and starts the decoding over: the text of all bytes
is cut just where the bytes are (`textLines_decodeLossy`).

What cutting does to any list is said by its parts (`Cut`): none is empty,
none goes on behind an element that ends a part, and all but the last end
with one. `byParts` is the induction that goes with it, over the parts and
not over the elements. It follows, element by element, that an edit that
neither adds nor removes an end changes one part only
(`getElem?_splitAfter_edit`); so what is wrong with the bytes of a line is
wrong with no other line.
-/
import Logline.Log
import Logline.Proofs.Text.Utf8

namespace Logline

-- ============================================================= parts

section

variable {α : Type} {ends : α → Bool}

/-- Parts as they come from a list that is cut behind every element that
ends a part. -/
structure Cut (ends : α → Bool) (parts : List (List α)) : Prop where
  nonempty : ∀ part ∈ parts, part ≠ []
  within : ∀ part ∈ parts, ∀ a ∈ part.dropLast, ends a = false
  ended : ∀ part ∈ parts.dropLast,
    ∃ a, part.getLast? = some a ∧ ends a = true

/-- A list is without ends, or it is a part that is ended and a list behind
it. -/
@[elab_as_elim]
theorem byParts (ends : α → Bool) {motive : List α → Prop}
    (open' : ∀ xs, (∀ a ∈ xs, ends a = false) → motive xs)
    (closed : ∀ body e rest, (∀ a ∈ body, ends a = false) → ends e = true →
      motive rest → motive (body ++ e :: rest))
    (xs : List α) : motive xs := by
  suffices go : ∀ body, (∀ a ∈ body, ends a = false) → motive (body ++ xs)
    from go [] nofun
  induction xs with
  | nil =>
      intro body hbody
      rw [List.append_nil]
      exact open' body hbody
  | cons a xs ih =>
      intro body hbody
      cases ha : ends a with
      | true => exact closed body a xs hbody ha (ih [] nofun)
      | false =>
          rw [List.append_cons]
          refine ih (body ++ [a]) fun b hb => ?_
          rcases List.mem_append.mp hb with h | h
          · exact hbody b h
          · rw [List.mem_singleton.mp h]
            exact ha

theorem splitAfter_cons_of_ends {a : α} (h : ends a = true) (xs : List α) :
    splitAfter ends (a :: xs) = [a] :: splitAfter ends xs := by
  rw [splitAfter, if_pos h]

/-- An element that does not end a part belongs to the one behind it. -/
theorem splitAfter_cons_of_not {a : α} (h : ends a = false) (xs : List α) :
    splitAfter ends (a :: xs)
      = (a :: (splitAfter ends xs).headD []) :: (splitAfter ends xs).tail := by
  rw [splitAfter, if_neg (Bool.eq_false_iff.mp h)]
  cases splitAfter ends xs with
  | nil => rfl
  | cons part parts => rfl

theorem splitAfter_open {xs : List α} (h : ∀ a ∈ xs, ends a = false)
    (hne : xs ≠ []) : splitAfter ends xs = [xs] := by
  induction xs with
  | nil => exact absurd rfl hne
  | cons a xs ih =>
      rw [splitAfter_cons_of_not (h a (.head _))]
      cases xs with
      | nil => rfl
      | cons b xs => rw [ih (fun c hc => h c (.tail _ hc)) nofun]; rfl

theorem splitAfter_closed {body : List α} (h : ∀ a ∈ body, ends a = false)
    {e : α} (he : ends e = true) (rest : List α) :
    splitAfter ends (body ++ e :: rest)
      = (body ++ [e]) :: splitAfter ends rest := by
  induction body with
  | nil => exact splitAfter_cons_of_ends he rest
  | cons a body ih =>
      rw [List.cons_append, splitAfter_cons_of_not (h a (.head _)),
        ih fun b hb => h b (.tail _ hb)]
      rfl

/-- Nothing is lost. -/
theorem flatten_splitAfter (ends : α → Bool) (xs : List α) :
    (splitAfter ends xs).flatten = xs := by
  induction xs with
  | nil => rfl
  | cons a xs ih =>
      cases ha : ends a with
      | true => rw [splitAfter_cons_of_ends ha, List.flatten_cons, ih]; rfl
      | false =>
          rw [splitAfter_cons_of_not ha]
          cases hparts : splitAfter ends xs with
          | nil =>
              rw [hparts] at ih
              rw [← ih]
              rfl
          | cons part parts =>
              rw [hparts] at ih
              rw [← ih]
              rfl

theorem Cut.cons {body : List α} (h : ∀ a ∈ body, ends a = false) {e : α}
    (he : ends e = true) {parts : List (List α)} (hparts : Cut ends parts) :
    Cut ends ((body ++ [e]) :: parts) where
  nonempty := List.forall_mem_cons.mpr ⟨by simp, hparts.nonempty⟩
  within := by
    refine List.forall_mem_cons.mpr ⟨fun a ha => ?_, hparts.within⟩
    rw [List.dropLast_concat] at ha
    exact h a ha
  ended := by
    intro part hpart
    cases parts with
    | nil => cases hpart
    | cons next parts =>
        rw [List.dropLast_cons_of_ne_nil (List.cons_ne_nil _ _)] at hpart
        rcases List.mem_cons.mp hpart with rfl | hlater
        · exact ⟨e, List.getLast?_concat, he⟩
        · exact hparts.ended part hlater

theorem cut_splitAfter (ends : α → Bool) (xs : List α) :
    Cut ends (splitAfter ends xs) := by
  induction xs using byParts ends with
  | open' xs h =>
      by_cases hne : xs = []
      · subst hne
        exact ⟨nofun, nofun, nofun⟩
      · rw [splitAfter_open h hne]
        refine ⟨?_, ?_, nofun⟩
        · simpa using hne
        · simpa using fun a ha => h a ((List.dropLast_sublist xs).subset ha)
  | closed body e rest h he ih =>
      rw [splitAfter_closed h he]
      exact ih.cons h he

-- ============================================================= edits

/-- An element that ends no part shows in the first part only. -/
theorem getElem?_splitAfter_cons {a : α} (h : ends a = false)
    (xs : List α) (i : Nat) :
    (splitAfter ends (a :: xs))[i]?
      = if i = 0 then some (a :: (splitAfter ends xs)[0]?.getD [])
        else (splitAfter ends xs)[i]? := by
  rw [splitAfter_cons_of_not h]
  cases i with
  | zero =>
      cases splitAfter ends xs with
      | nil => rfl
      | cons part parts => rfl
  | succ i =>
      cases splitAfter ends xs with
      | nil => rfl
      | cons part parts => rfl

/-- Elements that end no part can stand in for others that end none. The
part that they stand in is told by the ends before it, and no other part
changes. -/
theorem getElem?_splitAfter_edit {old new : List α}
    (hold : ∀ a ∈ old, ends a = false) (hnew : ∀ a ∈ new, ends a = false)
    (front back : List α) {i : Nat} (hi : i ≠ front.countP ends) :
    (splitAfter ends (front ++ old ++ back))[i]?
      = (splitAfter ends (front ++ new ++ back))[i]? := by
  induction front generalizing i with
  | nil =>
      have hzero : i ≠ 0 := hi
      have hskip : ∀ {part : List α}, (∀ a ∈ part, ends a = false) →
          (splitAfter ends (part ++ back))[i]? = (splitAfter ends back)[i]? := by
        intro part hpart
        induction part with
        | nil => rfl
        | cons a part ih =>
            rw [List.cons_append, getElem?_splitAfter_cons
              (hpart a (.head _)), if_neg hzero]
            exact ih fun b hb => hpart b (.tail _ hb)
      exact (hskip hold).trans (hskip hnew).symm
  | cons a front ih =>
      rw [List.countP_cons] at hi
      simp only [List.cons_append] at ih ⊢
      cases ha : ends a with
      | true =>
          rw [splitAfter_cons_of_ends ha, splitAfter_cons_of_ends ha]
          rw [ha, if_pos rfl] at hi
          cases i with
          | zero => rfl
          | succ i =>
              rw [List.getElem?_cons_succ, List.getElem?_cons_succ]
              exact ih fun h => hi (congrArg (· + 1) h)
      | false =>
          rw [ha, if_neg Bool.false_ne_true, Nat.add_zero] at hi
          rw [getElem?_splitAfter_cons ha, getElem?_splitAfter_cons ha]
          by_cases hzero : i = 0
          · subst hzero
            rw [ih hi]
          · rw [if_neg hzero, if_neg hzero, ih hi]

end

-- ============================================================= lines

open Text

/-- The text of all bytes is cut where the bytes are. -/
theorem textLines_decodeLossy (bytes : List UInt8) :
    textLines (decodeLossy bytes) = byteLines bytes := by
  have hcut : splitAfter (· = '\n') (decodeFrom none bytes)
      = (splitAfter (· = 10) bytes).map (decodeFrom none) := by
    have hfree : ∀ part : List UInt8, (∀ b ∈ part, decide (b = 10) = false) →
        ∀ c ∈ decodeFrom none part, decide (c = '\n') = false := by
      intro part hpart c hc
      refine decide_eq_false ?_
      rintro rfl
      have hmem := lineFeed_mem_decodeFrom .none hc
      exact of_decide_eq_false (hpart 10 hmem) rfl
    induction bytes using byParts fun b : UInt8 => decide (b = 10) with
    | open' part h =>
        by_cases hne : part = []
        · subst hne
          rfl
        · rw [splitAfter_open h hne, splitAfter_open (hfree part h)
            (decodeFrom_ne_nil (.inr hne))]
          rfl
    | closed body e rest h he ih =>
        obtain rfl : e = 10 := of_decide_eq_true he
        have hline : decodeFrom none (body ++ [10])
            = decodeFrom none body ++ ['\n'] :=
          decodeFrom_lineFeed .none body []
        rw [decodeFrom_lineFeed .none, splitAfter_closed (hfree body h) rfl,
          ih, splitAfter_closed h rfl, List.map_cons, hline]
  unfold textLines byteLines decodeLossy
  rw [String.toList_ofList, hcut, List.map_map]
  rfl

namespace Log

variable (options : Options) (texts : List String)

theorem number_getElem? (i : Nat) :
    (number options texts)[i]? = texts[i]?.map (Line.make · i options) := by
  unfold number
  rw [List.getElem?_map, List.getElem?_zipIdx, Option.map_map, Nat.zero_add]
  rfl

theorem number_map_text : (number options texts).map Line.text = texts := by
  unfold number
  rw [List.map_map]
  exact List.zipIdx_map_fst 0 texts

theorem number_map_number :
    (number options texts).map Line.number = List.range texts.length := by
  unfold number
  rw [List.map_map, List.range_eq_range']
  exact List.zipIdx_map_snd 0 texts

theorem number_length : (number options texts).length = texts.length := by
  rw [← List.length_map (f := Line.text), number_map_text]

-- ============================================================ loading

/-- Bytes come to a log with the lines of the text that they all decode to.
The lines are numbered in their order and make up that text. Each is the
text of bytes of its own: where some of them give way to others, none of
these a line feed, it shows in no other line. -/
theorem loading_splits (bytes : List UInt8) (options : Options) :
    ∃ log, ofBytes bytes none options = .ok log
      ∧ log = ofText (decodeLossy bytes) options
      ∧ log.lines.map Line.number = List.range log.lines.length
      ∧ String.join (log.lines.map Line.text) = decodeLossy bytes
      ∧ Cut (· = '\n') (log.lines.map fun line => line.text.toList)
      ∧ (∃ parts, Cut (· = 10) parts ∧ parts.flatten = bytes
        ∧ log.lines.map Line.text = parts.map decodeLossy)
      ∧ ∀ front old new back, bytes = front ++ old ++ back →
        10 ∉ old → 10 ∉ new →
        ∃ edited, ofBytes (front ++ new ++ back) none options = .ok edited
          ∧ ∀ i, i ≠ front.count 10 → edited.lines[i]? = log.lines[i]? := by
  have hcut : (textLines (decodeLossy bytes)).map String.toList
      = splitAfter (· = '\n') (decodeLossy bytes).toList := by
    unfold textLines
    rw [List.map_map]
    exact List.map_id'' (fun _ => String.toList_ofList) _
  refine ⟨_, rfl, ?_, ?_, ?_, ?_, ⟨_, cut_splitAfter _ bytes,
    flatten_splitAfter _ bytes, number_map_text options _⟩, ?_⟩
  · unfold ofText
    rw [textLines_decodeLossy]
  · rw [number_length]
    exact number_map_number options _
  · rw [number_map_text, ← textLines_decodeLossy, ← String.toList_inj,
      String.toList_join, List.flatMap_def, hcut, flatten_splitAfter]
  · have htexts : (number options (byteLines bytes)).map
        (String.toList ∘ Line.text)
        = (textLines (decodeLossy bytes)).map String.toList := by
      rw [← List.map_map, number_map_text, textLines_decodeLossy]
    change Cut _ ((number options (byteLines bytes)).map
      (String.toList ∘ Line.text))
    rw [htexts, hcut]
    exact cut_splitAfter _ _
  · rintro front old new back rfl hold hnew
    have hfree : ∀ part : List UInt8, 10 ∉ part →
        ∀ b ∈ part, decide (b = 10) = false := by
      intro part hpart b hb
      refine decide_eq_false ?_
      rintro rfl
      exact hpart hb
    refine ⟨_, rfl, fun i hi => ?_⟩
    have hplace : i ≠ front.countP fun b => decide (b = 10) := hi
    rw [number_getElem?, number_getElem?]
    unfold byteLines
    rw [List.getElem?_map, List.getElem?_map, getElem?_splitAfter_edit
      (hfree new hnew) (hfree old hold) front back hplace]

/-- A character that breaks off at the end of the first line, and another at
the end of the bytes. With other bytes in place of the first the second line
is what it was. -/
theorem loading_splits_broken :
    (ofText (decodeLossy [0x61, 0xE2, 0x82, 10, 0x62, 0xC3]) .initial
      ).lines.map Line.text = ["a\uFFFD\n", "b\uFFFD"]
    ∧ (ofText (decodeLossy [0x61, 0xFF, 0xFF, 0xFF, 10, 0x62, 0xC3])
      .initial).lines[1]?
      = (ofText (decodeLossy [0x61, 0xE2, 0x82, 10, 0x62, 0xC3])
        .initial).lines[1]? := by
  obtain ⟨log, -, rfl, -, -, -, -, hedits⟩ :=
    loading_splits [0x61, 0xE2, 0x82, 10, 0x62, 0xC3] .initial
  obtain ⟨edited, hedited, hsame⟩ := hedits [0x61] [0xE2, 0x82]
    [0xFF, 0xFF, 0xFF] [10, 0x62, 0xC3] rfl (by decide) (by decide)
  obtain ⟨_, hagain, rfl, -⟩ :=
    loading_splits ([0x61] ++ [0xFF, 0xFF, 0xFF] ++ [10, 0x62, 0xC3]) .initial
  cases hagain.symm.trans hedited
  exact ⟨by decide, hsame 1 (by decide)⟩

end Log

end Logline
