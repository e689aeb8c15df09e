/-
What a line feed does to bytes that are decoded.

In UTF-8 a byte below 0x80 is a character of its own wherever it stands. So
the line feed ends whatever came before it: a character that is under way
breaks off and is replaced, and decoding goes on behind the line feed as at
the start (`decodeFrom_lineFeed`). And nothing but the byte itself decodes
to a line feed (`lineFeed_mem_decodeFrom`).

Both hold of the states that the machine gets into, and not of every state
that could be written down: one with low bounds for its tails could take a
line feed for a tail, and one without bits could come to one. What rules
these out is `Unfinished.Proper`, which every lead byte brings about and
every tail keeps.
-/
import Logline.Text.Utf8

namespace Logline.Text

-- ============================================================ states

/-- The next tail is no character by itself, and with the bits so far or the
bits that it must have the character under way is beyond the controls. -/
structure Unfinished.Proper (state : Unfinished) : Prop where
  tail : 0x80 ≤ state.low.toNat
  bits : 0 < state.bits ∨ 0x90 ≤ state.low.toNat

/-- A number that is no character counts as the null character. -/
theorem ofNat_eq_lineFeed {n : Nat} (h : Char.ofNat n = '\n') : n = 10 := by
  have hnat : (Char.ofNat n).toNat = 10 := congrArg Char.toNat h
  by_cases hvalid : n.isValidChar
  · rw [Char.ofNat, dif_pos hvalid] at hnat
    exact hnat
  · rw [Char.ofNat, dif_neg hvalid] at hnat
    cases hnat

-- ============================================================ steps

section

variable {state next : Unfinished} {b : UInt8} {c : Char}

theorem leadByte_lineFeed : leadByte 10 = .whole '\n' := rfl

theorem leadByte_whole (h : leadByte b = .whole '\n') : b = 10 := by
  have hnat : b.toNat = 10 := by
    unfold leadByte at h
    dsimp only at h
    split at h
    · exact ofNat_eq_lineFeed (ByteStep.whole.inj h)
    · repeat' split at h
      all_goals cases h
  exact UInt8.toNat_inj.mp hnat

theorem leadByte_more (h : leadByte b = .more state) : state.Proper := by
  unfold leadByte at h
  dsimp only at h
  repeat' split at h
  all_goals first | obtain rfl := ByteStep.more.inj h | nomatch h
  -- where there are no bits yet the next tail has a higher bound
  all_goals
    constructor
    · dsimp only
      decide
    · dsimp only
      first
      | exact .inr (by decide)
      | exact .inl (by omega)

theorem tailByte_lineFeed (h : state.Proper) : tailByte state 10 = .bad := by
  have htail := h.tail
  unfold tailByte
  rw [if_neg]
  rintro ⟨hlow, -⟩
  have hnat : state.low.toNat ≤ 10 := UInt8.le_iff_toNat_le.mp hlow
  omega

/-- The bits after a tail. -/
theorem tail_bits (h : state.Proper) (hlow : state.low ≤ b) :
    0x10 ≤ state.bits * 64 + (b.toNat - 0x80) := by
  have hnat : state.low.toNat ≤ b.toNat := UInt8.le_iff_toNat_le.mp hlow
  rcases h.bits with hbits | hbits
  · omega
  · omega

theorem tailByte_whole (h : state.Proper)
    (hstep : tailByte state b = .whole c) : c ≠ '\n' := by
  unfold tailByte at hstep
  split at hstep
  · rename_i hb
    have hbits := tail_bits h hb.1
    dsimp only at hstep
    split at hstep
    · rintro rfl
      have hten := ofNat_eq_lineFeed (ByteStep.whole.inj hstep)
      omega
    · cases hstep
  · cases hstep

theorem tailByte_more (h : state.Proper)
    (hstep : tailByte state b = .more next) : next.Proper := by
  unfold tailByte at hstep
  split at hstep
  · rename_i hb
    have hbits := tail_bits h hb.1
    dsimp only at hstep
    split at hstep
    · cases hstep
    · obtain rfl := ByteStep.more.inj hstep
      constructor
      · dsimp only
        decide
      · dsimp only
        omega
  · cases hstep

/-- A byte that breaks a character off is read again. -/
theorem decodeFrom_bad (h : tailByte state b = .bad) (rest : List UInt8) :
    decodeFrom (some state) (b :: rest)
      = replacement :: decodeFrom none (b :: rest) := by
  simp only [decodeFrom, h]

end

-- ============================================================ texts

/-- The states that the machine gets into. -/
def Reached (s : Option Unfinished) : Prop :=
  ∀ state, s = some state → state.Proper

theorem Reached.none : Reached none := nofun

theorem Reached.some {state : Unfinished} (h : state.Proper) :
    Reached (some state) := by
  intro _ hs
  exact Option.some.inj hs ▸ h

/-- Behind a line feed decoding starts over. -/
theorem decodeFrom_lineFeed {s : Option Unfinished} (h : Reached s)
    (bytes rest : List UInt8) :
    decodeFrom s (bytes ++ 10 :: rest)
      = decodeFrom s bytes ++ '\n' :: decodeFrom none rest := by
  have hfeed : decodeFrom none (10 :: rest)
      = '\n' :: decodeFrom none rest := by
    rw [decodeFrom, leadByte_lineFeed]
  induction bytes generalizing s with
  | nil =>
      cases s with
      | none => exact hfeed
      | some state =>
          rw [List.nil_append, decodeFrom_bad (tailByte_lineFeed (h _ rfl)),
            hfeed]
          rfl
  | cons b bytes ih =>
      -- from the start, whichever step the byte makes
      have hlead : decodeFrom none (b :: (bytes ++ 10 :: rest))
          = decodeFrom none (b :: bytes)
            ++ '\n' :: decodeFrom none rest := by
        rw [decodeFrom, decodeFrom]
        cases hstep : leadByte b with
        | whole c => exact congrArg (c :: ·) (ih .none)
        | more state => exact ih (.some (leadByte_more hstep))
        | bad => exact congrArg (replacement :: ·) (ih .none)
      cases s with
      | none => exact hlead
      | some state =>
          have hproper := h state rfl
          cases hstep : tailByte state b with
          | whole c =>
              rw [List.cons_append, decodeFrom, decodeFrom, hstep]
              exact congrArg (c :: ·) (ih .none)
          | more next =>
              rw [List.cons_append, decodeFrom, decodeFrom, hstep]
              exact ih (.some (tailByte_more hproper hstep))
          | bad =>
              rw [List.cons_append, decodeFrom_bad hstep,
                decodeFrom_bad hstep, hlead]
              rfl

/-- A line feed in the text was one in the bytes. -/
theorem lineFeed_mem_decodeFrom {s : Option Unfinished} (h : Reached s)
    {bytes : List UInt8} (hmem : '\n' ∈ decodeFrom s bytes) :
    10 ∈ bytes := by
  have hreplacement : '\n' ≠ replacement := by decide
  induction bytes generalizing s with
  | nil =>
      cases s with
      | none => cases hmem
      | some state =>
          exact absurd (List.mem_singleton.mp hmem) hreplacement
  | cons b bytes ih =>
      have hlead : '\n' ∈ decodeFrom none (b :: bytes) →
          10 ∈ b :: bytes := by
        intro hmem
        rw [decodeFrom] at hmem
        cases hstep : leadByte b with
        | whole c =>
            simp only [hstep, List.mem_cons] at hmem
            rcases hmem with rfl | hlater
            · rw [leadByte_whole hstep]
              exact .head _
            · exact .tail _ (ih .none hlater)
        | more state =>
            simp only [hstep] at hmem
            exact .tail _ (ih (.some (leadByte_more hstep)) hmem)
        | bad =>
            simp only [hstep, List.mem_cons] at hmem
            exact .tail _ (ih .none (hmem.resolve_left hreplacement))
      cases s with
      | none => exact hlead hmem
      | some state =>
          have hproper := h state rfl
          cases hstep : tailByte state b with
          | whole c =>
              rw [decodeFrom, hstep] at hmem
              rcases List.mem_cons.mp hmem with hfirst | hlater
              · exact absurd hfirst.symm (tailByte_whole hproper hstep)
              · exact .tail _ (ih .none hlater)
          | more next =>
              rw [decodeFrom, hstep] at hmem
              exact .tail _ (ih (.some (tailByte_more hproper hstep)) hmem)
          | bad =>
              rw [decodeFrom_bad hstep] at hmem
              rcases List.mem_cons.mp hmem with hfirst | hlater
              · exact absurd hfirst hreplacement
              · exact hlead hlater

/-- Every byte counts for something. -/
theorem decodeFrom_ne_nil {s : Option Unfinished} {bytes : List UInt8}
    (h : s ≠ none ∨ bytes ≠ []) : decodeFrom s bytes ≠ [] := by
  induction bytes generalizing s with
  | nil =>
      cases s with
      | none => simp at h
      | some state => nofun
  | cons b bytes ih =>
      have hlead : decodeFrom none (b :: bytes) ≠ [] := by
        rw [decodeFrom]
        cases leadByte b with
        | whole c => nofun
        | more state => exact ih (.inl nofun)
        | bad => nofun
      cases s with
      | none => exact hlead
      | some state =>
          cases hstep : tailByte state b with
          | whole c =>
              rw [decodeFrom, hstep]
              nofun
          | more next =>
              rw [decodeFrom, hstep]
              exact ih (.inl nofun)
          | bad =>
              rw [decodeFrom_bad hstep]
              nofun

end Logline.Text
