/-
Which texts have an offset, and what it does to their instant.

An item either gives an offset or leaves it alone (`Reads`), so the fields
of a text have one exactly if the format has such an item
(`Reading.fields_offset`). Offsets are whole minutes.

Without an offset the date and time are those of UTC. With one they are the
local ones, and the offset is taken off. Where fields of their own give date
and time (`Fields.Complete`), what they give is the same at every offset. Where
a timestamp gives them, they are moved by the offset on the way there, so
that nothing is left of it on the way back (`Fields.localInstant_zero_iff`).
-/
import Logline.Proofs.Calendar.Fields
import Logline.Proofs.Calendar.Format

namespace Logline.Calendar

namespace Fields

variable {f g : Fields} {offset : Int} {t : Instant}

-- ============================================================ instants

/-- Date and time of day are given by fields of their own. -/
def Complete (f : Fields) : Prop :=
  ∃ date time, f.date = .ok date ∧ f.timeOfDay = .ok time

/-- What fields of their own give has nothing to do with the offset, but a
timestamp beside them has to agree with it. -/
theorem localInstant_of_complete {date : Date} {time : TimeOfDay}
    (hdate : f.date = .ok date) (htime : f.timeOfDay = .ok time)
    (h : f.localInstant offset = .ok t) :
    t = .ofDaySecond date.dayNumber time.second time.nano := by
  unfold localInstant at h
  rw [hdate, htime] at h
  dsimp only at h
  split at h
  · cases h
    rfl
  · split at h
    · cases h
      rfl
    · cases h

theorem of_refused_eq_ok {refused : Prop} [Decidable refused]
    {cause : TimeError} {result : Except TimeError Instant}
    (h : (if refused then .error cause else result) = .ok t) :
    result = .ok t := by
  split at h
  · cases h
  · exact h

/-- What is missing, a timestamp has to give. -/
theorem localInstant_of_not_complete (hincomplete : ¬ f.Complete)
    (h : f.localInstant offset = .ok t) :
    ∃ given, f.timestamp = some given
      ∧ f.fromTimestamp given offset = .ok t := by
  unfold localInstant at h
  split at h
  · rename_i hdate htime
    exact absurd ⟨_, _, hdate, htime⟩ hincomplete
  · split at h
    · rename_i given hgiven
      exact ⟨given, hgiven, of_refused_eq_ok (of_refused_eq_ok h)⟩
    · exfalso
      split at h
      · cases h
      · split at h
        · cases h
        · cases h

theorem yearInRange_ofDaySecond {date : Date} (hdate : date.Valid)
    {second : Nat} (hsecond : second < 86400) (nano : Nat) :
    yearInRange (Instant.ofDaySecond date.dayNumber second nano).date.year
      = true := by
  rw [Instant.date_ofDaySecond hdate hsecond]
  exact hdate.year

/-- A local date and time is always one that the calendar has. -/
theorem localInstant_inRange (hf : f.Bounded)
    (h : f.localInstant offset = .ok t) :
    yearInRange t.date.year = true := by
  by_cases hcomplete : f.Complete
  · obtain ⟨date, time, hdate, htime⟩ := hcomplete
    obtain rfl := localInstant_of_complete hdate htime h
    exact yearInRange_ofDaySecond (date_valid hdate) (timeOfDay_lt hf htime) _
  · obtain ⟨given, -, h⟩ := localInstant_of_not_complete hcomplete h
    obtain ⟨start, second, date, time, -, hticks, -, hdate, htime, rfl⟩ :=
      fromTimestamp_filled h
    cases (timeOfDay_filledFrom hticks).symm.trans htime
    exact yearInRange_ofDaySecond (date_valid hdate) start.secondOfDay_lt _

theorem startSecond_sub {given : Int} (h : offset % 60 = 0) :
    f.startSecond given offset - offset = f.startSecond given 0 := by
  have hminute : (given + offset) % 60 = (given + 0) % 60 := by omega
  unfold startSecond
  rw [hminute]
  split
  · omega
  · omega

/-- Without its offset, a local date and time is read as the instant that it
is with it, only if nothing is to be taken off, or if a timestamp gives it
and what fields there are agree with the timestamp in UTC, too. -/
theorem localInstant_zero_iff (hoffset : offset % 60 = 0)
    (h : f.localInstant offset = .ok t) :
    f.localInstant 0 = .ok ⟨t.second - offset, t.nano⟩
      ↔ offset = 0
        ∨ ¬ f.Complete ∧ ∃ t', f.localInstant 0 = .ok t' := by
  constructor
  · intro hzero
    by_cases hcomplete : f.Complete
    · obtain ⟨date, time, hdate, htime⟩ := hcomplete
      have hlocal := localInstant_of_complete hdate htime h
      have hsame := localInstant_of_complete hdate htime hzero
      rw [← hlocal] at hsame
      have hsecond : t.second - offset = t.second :=
        congrArg Instant.second hsame
      exact .inl (by omega)
    · exact .inr ⟨hcomplete, _, hzero⟩
  · rintro (rfl | ⟨hincomplete, t', hzero⟩)
    · rw [h, Int.sub_zero]
    · obtain ⟨given, hgiven, hlocal⟩ :=
        localInstant_of_not_complete hincomplete h
      obtain ⟨given', hgiven', hutc⟩ :=
        localInstant_of_not_complete hincomplete hzero
      cases hgiven.symm.trans hgiven'
      rw [hzero, fromTimestamp_eq_ok hlocal, fromTimestamp_eq_ok hutc]
      dsimp only
      rw [startSecond_sub hoffset]

/-- With an offset, the instant is the local date and time less the
offset. -/
theorem instant_of_offset (hoffset : f.offset = some offset) :
    f.instant = .ok t ↔ ∃ there, f.localInstant offset = .ok there
      ∧ -86400 < offset ∧ offset < 86400
      ∧ t = ⟨there.second - offset, there.nano⟩
      ∧ yearInRange t.date.year = true := by
  unfold instant
  rw [hoffset]
  show (f.localInstant offset >>= _) = _ ↔ _
  rw [bind_eq_ok_iff]
  refine exists_congr fun there => and_congr_right fun _ => ?_
  split
  · rename_i hfar
    refine iff_of_false (fun h => nomatch h) ?_
    omega
  · rename_i hnear
    show (if _ then _ else _) = _ ↔ _
    constructor
    · intro h
      split at h
      · rename_i hyear
        cases h
        exact ⟨by omega, by omega, rfl, hyear⟩
      · cases h
    · rintro ⟨-, -, rfl, hyear⟩
      rw [if_pos hyear]
      rfl

/-- Without an offset, a timestamp is one of UTC. -/
theorem instant_of_timestamp (hf : f.Bounded) (hoffset : f.offset = none)
    {given : Int} (hgiven : f.timestamp = some given) :
    f.instant = f.localInstant 0 := by
  unfold instant
  rw [hoffset, hgiven]
  show (f.localInstant 0 >>= _) = _
  cases h : f.localInstant 0 with
  | error e => rfl
  | ok t =>
      have hyear := localInstant_inRange hf h
      show (if yearInRange (Instant.date ⟨t.second - 0, t.nano⟩).year
        then _ else _) = _
      rw [Int.sub_zero, if_pos hyear]
      rfl

theorem instant_of_neither (hoffset : f.offset = none)
    (hgiven : f.timestamp = none) : f.instant = .error .notEnough := by
  unfold instant
  rw [hoffset, hgiven]
  rfl

end Fields

-- ================================================================ items

namespace Reading

open Fields

variable {f g : Fields} {cs rest : List Char}

/-- Fields with what more of a text says. An offset comes with an item that
gives one, and only with such an item. -/
structure Reads (zoned : Bool) (f g : Fields) : Prop where
  offset : g.offset.isSome = (f.offset.isSome || zoned)
  bounded : f.Bounded → g.Bounded

theorem Reads.same (f : Fields) : Reads false f f where
  offset := (Bool.or_false _).symm
  bounded hf := hf

theorem Reads.of_fills (hg : Fills f g) : Reads false f g where
  offset := by rw [hg.offset, Bool.or_false]
  bounded := hg.bounded

theorem Reads.trans {first second : Bool} {last : Fields}
    (hg : Reads first f g) (hlast : Reads second g last) :
    Reads (first || second) f last where
  offset := by rw [hlast.offset, hg.offset, Bool.or_assoc]
  bounded hf := hlast.bounded (hg.bounded hf)

theorem setOffset_reads {offset : Int} (hwhole : offset % 60 = 0)
    (h : f.setOffset offset = .ok g) : Reads true f g := by
  obtain ⟨v, hv, hg⟩ := bind_eq_ok_iff.mp h
  cases hg
  obtain rfl := agree_eq_ok hv
  refine ⟨(Bool.or_true _).symm, fun hf => { hf with offset := ?_ }⟩
  intro n hn
  cases hn
  exact hwhole

/-- Offsets are written in hours and minutes. -/
theorem offset_whole {zulu mayLackMinutes : Bool} {offset : Int}
    (h : Reading.offset zulu mayLackMinutes cs = .ok (offset, rest)) :
    offset % 60 = 0 := by
  unfold Reading.offset at h
  split at h
  · cases h
    rfl
  · cases h
    rfl
  · obtain ⟨⟨negative, _⟩, -, h⟩ := bind_eq_ok_iff.mp h
    obtain ⟨⟨hours, _⟩, -, h⟩ := bind_eq_ok_iff.mp h
    obtain ⟨⟨minutes, _⟩, -, h⟩ := bind_eq_ok_iff.mp h
    cases h
    cases negative
    · rw [if_neg (by decide)]
      omega
    · rw [if_pos rfl]
      omega

theorem half_le {n : Nat} (h : Reading.half cs = .ok (n, rest)) : n ≤ 1 := by
  unfold Reading.half at h
  split at h
  · cases h
  · split at h
    · cases h
      exact Nat.zero_le 1
    · cases h
      exact Nat.le_refl 1
    · cases h

/-- What is read is what a field is filled with. -/
theorem set_of_read {α : Type} {read : Except TimeError (α × List Char)}
    (set : α → Except TimeError Fields)
    (h : (do let (a, rest) ← read; let f ← set a; return (f, rest))
      = Except.ok (g, rest)) :
    ∃ a left, read = .ok (a, left) ∧ set a = .ok g := by
  obtain ⟨⟨a, left⟩, hread, h⟩ := bind_eq_ok_iff.mp h
  obtain ⟨_, hset, h⟩ := bind_eq_ok_iff.mp h
  cases h
  exact ⟨a, _, hread, hset⟩

/-- One item gives an offset if it is one that does. -/
theorem plainItem_reads {item : Item}
    (h : plainItem item f cs = .ok (g, rest)) : Reads item.zoned f g := by
  cases item with
  | literal text =>
      obtain ⟨_, -, h⟩ := bind_eq_ok_iff.mp h
      cases h
      exact .same f
  | space | zoneName =>
      cases h
      exact .same f
  | number field =>
      obtain ⟨n, _, -, hset⟩ := set_of_read (f.setNumber field) h
      exact .of_fills (setNumber_fills hset)
  | monthName long =>
      obtain ⟨place, _, -, hset⟩ :=
        set_of_read (fun place : Nat => f.setMonth (place + 1 : Nat)) h
      exact .of_fills (setMonth_fills hset)
  | weekdayName long =>
      obtain ⟨place, _, -, hset⟩ := set_of_read f.setWeekday h
      exact .of_fills (setWeekday_fills hset)
  | half =>
      obtain ⟨half, _, hread, hset⟩ := set_of_read f.setHalf h
      exact .of_fills (setHalf_fills (half_le hread) hset)
  | fraction =>
      unfold plainItem at h
      dsimp only at h
      split at h
      · obtain ⟨nano, _, -, hset⟩ :=
          set_of_read (fun nano : Nat => f.setNanosecond nano) h
        exact .of_fills (setNanosecond_fills hset)
      · cases h
        exact .same f
  | bareFraction digits =>
      obtain ⟨nano, _, -, hset⟩ :=
        set_of_read (fun nano : Nat => f.setNanosecond nano) h
      exact .of_fills (setNanosecond_fills hset)
  | offset permissive =>
      obtain ⟨offset, _, hread, hset⟩ := set_of_read f.setOffset h
      exact setOffset_reads (offset_whole hread) hset
  | rfc3339 | bad => cases h

theorem plainItems_reads {items : List Item}
    (h : plainItems items f cs = .ok (g, rest)) :
    Reads (items.any Item.zoned) f g := by
  induction items generalizing f cs with
  | nil =>
      cases h
      exact .same _
  | cons item items ih =>
      obtain ⟨⟨_, _⟩, hitem, h⟩ := bind_eq_ok_iff.mp h
      exact (plainItem_reads hitem).trans (ih h)

theorem rfc3339_reads (h : rfc3339 f cs = .ok (g, rest)) :
    Reads true f g := by
  obtain ⟨⟨_, _⟩, hdate, h⟩ := bind_eq_ok_iff.mp h
  obtain ⟨_, -, h⟩ := bind_eq_ok_iff.mp h
  obtain ⟨⟨_, _⟩, htime, h⟩ := bind_eq_ok_iff.mp h
  have hbefore := (plainItems_reads hdate).trans (plainItems_reads htime)
  dsimp only at h
  split at h
  · -- UTC, spelled out
    obtain ⟨offset, _, hread, hset⟩ := set_of_read (Fields.setOffset _) h
    cases hread
    exact hbefore.trans (setOffset_reads rfl hset)
  · obtain ⟨offset, _, hread, hset⟩ := set_of_read (Fields.setOffset _) h
    exact hbefore.trans (setOffset_reads (offset_whole hread) hset)

theorem item_reads {item : Item}
    (h : Reading.item item f cs = .ok (g, rest)) : Reads item.zoned f g := by
  unfold Reading.item at h
  split at h
  · exact rfc3339_reads h
  · exact plainItem_reads h

/-- What is read along items has an offset if one of them gives one. -/
theorem items_reads {items : List Item}
    (h : Reading.items items f cs = .ok (g, rest)) :
    Reads (items.any Item.zoned) f g := by
  induction items generalizing f cs with
  | nil =>
      cases h
      exact .same _
  | cons item items ih =>
      obtain ⟨⟨_, _⟩, hitem, h⟩ := bind_eq_ok_iff.mp h
      exact (item_reads hitem).trans (ih h)

/-- Nothing is read along a list with an item that is none. -/
theorem bad_not_mem {items : List Item}
    (h : Reading.items items f cs = .ok (g, rest)) : .bad ∉ items := by
  induction items generalizing f cs with
  | nil => exact List.not_mem_nil
  | cons item items ih =>
      obtain ⟨⟨_, _⟩, hitem, h⟩ := bind_eq_ok_iff.mp h
      rintro (_ | ⟨_, hbad⟩)
      · cases hitem
      · exact ih h hbad

theorem fields_items {format : String} {text : List Char}
    (h : fields format text = .ok f) :
    ∃ rest, Reading.items (Item.ofFormat format) .empty text = .ok (f, rest)
    := by
  obtain ⟨⟨_, rest⟩, hitems, h⟩ := bind_eq_ok_iff.mp h
  dsimp only at h
  split at h
  · cases h
    exact ⟨rest, hitems⟩
  · cases h

theorem fields_bounded {format : String} {text : List Char}
    (h : fields format text = .ok f) : f.Bounded := by
  obtain ⟨_, hitems⟩ := fields_items h
  exact (items_reads hitems).bounded ⟨nofun, nofun, nofun, nofun, nofun⟩

/-- The fields of a text have an offset exactly if the format has an item
that gives one. -/
theorem fields_offset {format : String} {text : List Char}
    (h : fields format text = .ok f) :
    f.offset.isSome = Item.anyZoned format := by
  obtain ⟨_, hitems⟩ := fields_items h
  exact (items_reads hitems).offset

theorem fields_not_bad {format : String} {text : List Char}
    (h : fields format text = .ok f) : .bad ∉ Item.ofFormat format := by
  obtain ⟨_, hitems⟩ := fields_items h
  exact bad_not_mem hitems

end Reading

end Logline.Calendar
