/-
Which zone a time is read in.

A text whose format gives an offset denotes its local date and time, less the
offset; any other is to be read as UTC. Which of the two a format is, is
decided by a search for two spellings of a field, not by the items of the
format. The search can go wrong both ways. It misses an offset that is
spelled otherwise, and then the offset is read and dropped
(`parseTime_shifted`). It takes a percent sign and a `z` for a field where a
field for the percent sign itself comes before the `z`, and then a text is
refused for the lack of an offset that its format does not give. Everywhere
else zones are honoured (`zonesHonoured_iff`).
-/
import Logline.Addin.DateTime
import Logline.Proofs.Calendar.Zones

namespace Logline.Addin.DateTime

open Calendar Text

variable {text format : String} {f : Fields} {t : Instant}

-- ===================================================== what is asked for

/-- The text is read without an offset, as UTC. -/
def readNaive (text format : String) : Except TimeError Instant := do
  let f ← Reading.fields format (trimBlanks text.toList)
  f.localInstant 0

/-- The instant that a text denotes under a format that gives an offset: its
local date and time less the offset. -/
def Denotes (text format : String) (t : Instant) : Prop :=
  ∃ f offset there,
    Reading.fields format (trimBlanks text.toList) = .ok f
    ∧ f.offset = some offset ∧ f.localInstant offset = .ok there
    ∧ -86400 < offset ∧ offset < 86400
    ∧ t = ⟨there.second - offset, there.nano⟩
    ∧ yearInRange t.date.year = true

/-- A text is read as the instant that it denotes where its format gives an
offset, and as UTC where it does not. -/
structure ZonesHonoured (text format : String) : Prop where
  zoned : Item.anyZoned format = true →
    ∀ t, Denotes text format t → parseTime text format = .ok t
  naive : Item.anyZoned format = false →
    parseTime text format = (readNaive text format).mapError .time

/-- The format gives an offset, and the search does not find it. -/
def OffsetMissed (format : String) : Prop :=
  Item.anyZoned format = true ∧ Instant.asksForOffset format = false

/-- The search finds an offset, and the format gives none. -/
def OffsetMistaken (format : String) : Prop :=
  Item.anyZoned format = false ∧ Instant.asksForOffset format = true

-- ========================================================= what is read

/-- A text with fields is read along the way that the search decides on. -/
theorem parseTime_of_fields
    (hf : Reading.fields format (trimBlanks text.toList) = .ok f) :
    parseTime text format
      = (if Instant.asksForOffset format then f.instant
          else f.localInstant 0).mapError .time := by
  have hread : Instant.read text format
      = if Instant.asksForOffset format then f.instant
        else f.localInstant 0 := by
    unfold Instant.read
    rw [hf]
    rfl
  unfold parseTime
  rw [hread]
  split
  · rename_i heq
    rw [heq]
    rfl
  · rename_i heq
    rw [heq]
    rfl

theorem readNaive_of_fields
    (hf : Reading.fields format (trimBlanks text.toList) = .ok f) :
    readNaive text format = f.localInstant 0 := by
  unfold readNaive
  rw [hf]
  rfl

theorem mapError_eq_ok {α ε δ : Type} {x : Except ε α} {a : α} {g : ε → δ} :
    x.mapError g = .ok a ↔ x = .ok a := by
  cases x with
  | ok b =>
      show (Except.ok b : Except δ α) = .ok a ↔ _
      rw [Except.ok.injEq, Except.ok.injEq]
  | error e => exact iff_of_false nofun nofun

/-- With fields that have an offset, a text denotes their instant. -/
theorem denotes_iff
    (hf : Reading.fields format (trimBlanks text.toList) = .ok f)
    {offset : Int} (hoffset : f.offset = some offset) :
    Denotes text format t ↔ f.instant = .ok t := by
  rw [Fields.instant_of_offset hoffset]
  constructor
  · rintro ⟨f', offset', there, hf', hoffset', hthere⟩
    cases hf.symm.trans hf'
    cases hoffset.symm.trans hoffset'
    exact ⟨there, hthere⟩
  · rintro ⟨there, hthere⟩
    exact ⟨f, offset, there, hf, hoffset, hthere⟩

/-- Under a format that gives an offset, a text denotes an instant exactly if
it can be read as one with its offset. -/
theorem denotes_iff_of_zoned (hzoned : Item.anyZoned format = true) :
    Denotes text format t
      ↔ ∃ f, Reading.fields format (trimBlanks text.toList) = .ok f
        ∧ f.instant = .ok t := by
  constructor
  · intro h
    obtain ⟨f, offset, _, hf, hoffset, _⟩ := id h
    exact ⟨f, hf, (denotes_iff hf hoffset).mp h⟩
  · rintro ⟨f, hf, h⟩
    have hsome := Reading.fields_offset hf
    rw [hzoned, Option.isSome_iff_exists] at hsome
    obtain ⟨offset, hoffset⟩ := hsome
    exact (denotes_iff hf hoffset).mpr h

/-- An offset that is missed is dropped: a local date and time is taken for
the one of UTC, off by just the offset. -/
theorem parseTime_shifted (hmissed : OffsetMissed format)
    (hf : Reading.fields format (trimBlanks text.toList) = .ok f)
    {offset : Int} (hoffset : f.offset = some offset)
    (hcomplete : f.Complete) (hgiven : f.timestamp = none)
    (h : Denotes text format t) :
    parseTime text format = .ok ⟨t.second + offset, t.nano⟩ := by
  obtain ⟨there, hthere, -, -, rfl, -⟩ :=
    (Fields.instant_of_offset hoffset).mp ((denotes_iff hf hoffset).mp h)
  obtain ⟨date, time, hdate, htime⟩ := hcomplete
  obtain rfl := Fields.localInstant_of_complete hdate htime hthere
  have hzero : f.localInstant 0
      = .ok (.ofDaySecond date.dayNumber time.second time.nano) := by
    unfold Fields.localInstant
    rw [hdate, htime, hgiven]
  rw [parseTime_of_fields hf, hmissed.2, mapError_eq_ok]
  dsimp only
  rw [Int.sub_add_cancel]
  exact hzero

-- ======================================================== how it is spelled

/-- An offset that is missed has one of the spellings that are not searched
for. -/
theorem spelled_of_missed (h : OffsetMissed format) :
    "%::z".toList <:+: format.toList ∨ "%:::z".toList <:+: format.toList
      ∨ "%#z".toList <:+: format.toList ∨ "%+".toList <:+: format.toList := by
  obtain ⟨letters, hletters, hin⟩ :=
    (Item.lexed_ofFormat format).spelled h.1
  have hunsought : letters ∉ Item.soughtLetters := by
    intro hsought
    have hasked := Instant.asksForOffset_iff.mpr ⟨letters, hsought, hin⟩
    rw [h.2] at hasked
    cases hasked
  simp only [Item.zoneLetters, Item.soughtLetters, List.mem_cons,
    List.not_mem_nil, or_false, not_or] at hletters hunsought
  obtain rfl | rfl | rfl | rfl | rfl | rfl := hletters
  · exact absurd rfl hunsought.1
  · exact absurd rfl hunsought.2
  · exact .inl hin
  · exact .inr (.inl hin)
  · exact .inr (.inr (.inl hin))
  · exact .inr (.inr (.inr hin))

/-- An offset that is mistaken comes behind a field for the percent sign. -/
theorem escaped_of_mistaken (h : OffsetMistaken format)
    (hbad : .bad ∉ Item.ofFormat format) :
    "%%z".toList <:+: format.toList ∨ "%%:z".toList <:+: format.toList := by
  obtain ⟨sought, hsought, hin⟩ := Instant.asksForOffset_iff.mp h.2
  have hescaped :=
    (Item.lexed_ofFormat format).escaped hbad h.1 hsought hin
  simp only [Item.soughtLetters, List.mem_cons, List.not_mem_nil, or_false]
    at hsought
  obtain rfl | rfl := hsought
  · exact .inl hescaped
  · exact .inr hescaped

-- ================================================== where it is honoured

section

variable (hf : Reading.fields format (trimBlanks text.toList) = .ok f)

include hf

/-- A missed offset does no harm if there is nothing to take off, or if the
text gives a timestamp which what else it gives agrees with in UTC, too. -/
theorem parseTime_of_missed (hmissed : OffsetMissed format)
    (h : Denotes text format t) :
    parseTime text format = .ok t
      ↔ f.offset = some 0
        ∨ ¬ f.Complete ∧ ∃ t', f.localInstant 0 = .ok t' := by
  obtain ⟨f', offset, there, hf', hoffset, hthere, -, -, rfl, -⟩ := h
  cases hf.symm.trans hf'
  have hwhole := (Reading.fields_bounded hf).offset offset hoffset
  rw [parseTime_of_fields hf, hmissed.2, mapError_eq_ok, hoffset,
    Option.some_inj]
  exact Fields.localInstant_zero_iff hwhole hthere

/-- A mistaken offset does no harm if the text gives a timestamp, or if it
does not give enough anyway. -/
theorem parseTime_of_mistaken (hmistaken : OffsetMistaken format) :
    parseTime text format = (readNaive text format).mapError .time
      ↔ f.timestamp = none → f.localInstant 0 = .error .notEnough := by
  have hoffset : f.offset = none := by
    have hsome := Reading.fields_offset hf
    rwa [hmistaken.1, Option.isSome_eq_false_iff, Option.isNone_iff_eq_none]
      at hsome
  rw [parseTime_of_fields hf, readNaive_of_fields hf, hmistaken.2]
  cases hgiven : f.timestamp with
  | some given =>
      have hsame := Fields.instant_of_timestamp
        (Reading.fields_bounded hf) hoffset hgiven
      simp [hsame]
  | none =>
      have hrefused := Fields.instant_of_neither hoffset hgiven
      rw [if_pos rfl, hrefused]
      cases hzero : f.localInstant 0 with
      | error cause =>
          show Except.error (Error.time .notEnough) = .error (.time cause) ↔ _
          simp [eq_comm]
      | ok t => exact iff_of_false nofun fun h => nomatch h rfl

end

/-- Zones are honoured unless the search for an offset goes wrong: unless it
misses an offset other than zero, or one beside a timestamp that is not the
same in UTC; or unless it finds one that the format does not give, and the
text has no timestamp and is enough without an offset. An offset can only be
missed in one of four spellings, and be mistaken in one of two. -/
theorem zonesHonoured_iff (text format : String) :
    (ZonesHonoured text format
      ↔ ∀ f, Reading.fields format (trimBlanks text.toList) = .ok f →
        (OffsetMissed format → (∃ t, Denotes text format t) →
          f.offset = some 0
            ∨ ¬ f.Complete ∧ ∃ t, f.localInstant 0 = .ok t)
        ∧ (OffsetMistaken format → f.timestamp = none →
          f.localInstant 0 = .error .notEnough))
    ∧ (OffsetMissed format →
      "%::z".toList <:+: format.toList ∨ "%:::z".toList <:+: format.toList
        ∨ "%#z".toList <:+: format.toList ∨ "%+".toList <:+: format.toList)
    ∧ (OffsetMistaken format →
      (∃ f, Reading.fields format (trimBlanks text.toList) = .ok f) →
      "%%z".toList <:+: format.toList
        ∨ "%%:z".toList <:+: format.toList) := by
  refine ⟨⟨fun h f hf => ⟨?_, ?_⟩, fun h => ⟨?_, ?_⟩⟩, spelled_of_missed,
    fun hmistaken hfields => ?_⟩
  · rintro hmissed ⟨t, ht⟩
    exact (parseTime_of_missed hf hmissed ht).mp (h.zoned hmissed.1 t ht)
  · intro hmistaken
    exact (parseTime_of_mistaken hf hmistaken).mp (h.naive hmistaken.1)
  · intro hzoned t ht
    obtain ⟨f, hf, hinstant⟩ := (denotes_iff_of_zoned hzoned).mp ht
    cases hasked : Instant.asksForOffset format with
    | true =>
        rw [parseTime_of_fields hf, hasked, mapError_eq_ok]
        exact hinstant
    | false =>
        have hmissed : OffsetMissed format := ⟨hzoned, hasked⟩
        exact (parseTime_of_missed hf hmissed ht).mpr
          ((h f hf).1 hmissed ⟨t, ht⟩)
  · intro hzoned
    cases hf : Reading.fields format (trimBlanks text.toList) with
    | error cause =>
        have hread : Instant.read text format = .error cause := by
          unfold Instant.read
          rw [hf]
          rfl
        unfold parseTime readNaive
        rw [hread, hf]
        rfl
    | ok f =>
        cases hasked : Instant.asksForOffset format with
        | true =>
            have hmistaken : OffsetMistaken format := ⟨hzoned, hasked⟩
            exact (parseTime_of_mistaken hf hmistaken).mpr
              ((h f hf).2 hmistaken)
        | false =>
            rw [parseTime_of_fields hf, readNaive_of_fields hf, hasked]
            rfl
  · obtain ⟨f, hf⟩ := hfields
    exact escaped_of_mistaken hmistaken (Reading.fields_not_bad hf)

/-- An offset with colons is honoured where it is searched for. -/
theorem zonesHonoured_iff_hours :
    ZonesHonoured "2013-02-09 03:19:03 +02:00" "%Y-%m-%d %H:%M:%S %:z" := by
  refine (zonesHonoured_iff _ _).1.mpr fun f _ => ⟨fun h => ?_, fun h => ?_⟩
  · exact absurd h.2 (by decide)
  · exact absurd h.1 (by decide)

/-- An offset with seconds is missed, and the text taken for one of UTC. A
percent sign before a `z` is mistaken for one, and the text refused. -/
theorem zones_not_honoured :
    ¬ ZonesHonoured "2013-02-09 03:19:03 +02:00" "%Y-%m-%d %H:%M:%S %::z"
    ∧ ¬ ZonesHonoured "2013-02-09 03:19:03 %z" "%Y-%m-%d %H:%M:%S %%z" := by
  constructor
  · intro h
    have hdenotes : Denotes "2013-02-09 03:19:03 +02:00"
        "%Y-%m-%d %H:%M:%S %::z" ⟨1360372743, 0⟩ :=
      ⟨_, 7200, ⟨1360379943, 0⟩, rfl, rfl, rfl, by decide, by decide, rfl,
        rfl⟩
    have hread : parseTime "2013-02-09 03:19:03 +02:00"
        "%Y-%m-%d %H:%M:%S %::z" = .ok ⟨1360379943, 0⟩ := by
      rfl
    cases (h.zoned (by decide) _ hdenotes).symm.trans hread
  · intro h
    have hread : parseTime "2013-02-09 03:19:03 %z"
        "%Y-%m-%d %H:%M:%S %%z" = .error (.time .notEnough) := by
      rfl
    have hnaive : readNaive "2013-02-09 03:19:03 %z"
        "%Y-%m-%d %H:%M:%S %%z" = .ok ⟨1360379943, 0⟩ := by
      rfl
    have hsame := h.naive (by decide)
    rw [hread, hnaive] at hsame
    cases hsame

end Logline.Addin.DateTime
