/-
What the fields of a time text come to.

Fields are filled one after the other, and what a field can be filled with is
bounded (`Fields.Bounded`). So whatever way a date and a time of day are put
together from fields, the date is a day that the calendar has
(`Fields.date_valid`) and the time lies within a day
(`Fields.timeOfDay_lt`).

A timestamp may stand in for what is missing. It is taken to the offset, and
then year, day of the year and time of day are filled from it, and these
decide alone: fields that are filled already can only contradict them
(`Fields.fromTimestamp_eq_ok`). So the instant is the one that is given, the
offset aside.
-/
import Logline.Calendar.Fields
import Logline.Proofs.Calendar.Instant

namespace Logline.Calendar

theorem bind_eq_ok_iff {α β : Type} {x : Except TimeError α}
    {next : α → Except TimeError β} {b : β} :
    (x >>= next) = .ok b ↔ ∃ a, x = .ok a ∧ next a = .ok b := by
  cases x <;> simp [bind, Except.bind]

namespace Fields

variable {f g : Fields}

-- ============================================================= filling

theorem agree_eq_ok {α : Type} [DecidableEq α] {old v : Option α} {new : α}
    (h : agree old new = .ok v) : v = some new := by
  unfold agree at h
  split at h
  · cases h
    rfl
  · split at h
    · rename_i heq
      cases h
      rw [heq]
    · cases h

theorem agreeWithin_eq_ok {low high : Int} {old v : Option Nat} {new : Int}
    (h : agreeWithin low high old new = .ok v) :
    low ≤ new ∧ new ≤ high ∧ v = some new.toNat := by
  unfold agreeWithin at h
  split at h
  · rename_i hin
    exact ⟨hin.1, hin.2, agree_eq_ok h⟩
  · cases h

/-- What the time of day can be filled with, and an offset of whole
minutes. -/
structure Bounded (f : Fields) : Prop where
  half : ∀ n, f.half = some n → n ≤ 1
  hour : ∀ n, f.hourOfHalf = some n → n ≤ 11
  minute : ∀ n, f.minute = some n → n ≤ 59
  second : ∀ n, f.second = some n → n ≤ 60
  offset : ∀ n, f.offset = some n → n % 60 = 0

/-- Fields with more of them filled, but not the offset. -/
structure Fills (f g : Fields) : Prop where
  offset : g.offset = f.offset
  bounded : f.Bounded → g.Bounded

/-- Nothing is asked of the fields that have nothing to do with the time of
day. -/
theorem Fills.dated (hhalf : g.half = f.half)
    (hhour : g.hourOfHalf = f.hourOfHalf) (hminute : g.minute = f.minute)
    (hsecond : g.second = f.second) (hoffset : g.offset = f.offset) :
    Fills f g where
  offset := hoffset
  bounded h := ⟨hhalf ▸ h.half, hhour ▸ h.hour, hminute ▸ h.minute,
    hsecond ▸ h.second, hoffset ▸ h.offset⟩

theorem setHalf_fills {half : Nat} (hhalf : half ≤ 1)
    (h : f.setHalf half = .ok g) : Fills f g := by
  obtain ⟨v, hv, hg⟩ := bind_eq_ok_iff.mp h
  cases hg
  refine ⟨rfl, fun hf => { hf with half := ?_ }⟩
  intro n hn
  cases (agree_eq_ok hv).symm.trans hn
  exact hhalf

theorem setHour_eq_ok {hour : Int} (h : f.setHour hour = .ok g) :
    0 ≤ hour ∧ hour ≤ 23
    ∧ g = { f with
        half := some (hour.toNat / 12), hourOfHalf := some (hour.toNat % 12) }
    := by
  unfold setHour at h
  split at h
  · rename_i hin
    obtain ⟨half, hhalf, h⟩ := bind_eq_ok_iff.mp h
    obtain ⟨hourOfHalf, hhour, h⟩ := bind_eq_ok_iff.mp h
    cases h
    rw [agree_eq_ok hhalf, agree_eq_ok hhour]
    exact ⟨hin.1, hin.2, rfl⟩
  · cases h

theorem setHour_fills {hour : Int} (h : f.setHour hour = .ok g) :
    Fills f g := by
  obtain ⟨hlow, hhigh, rfl⟩ := setHour_eq_ok h
  refine ⟨rfl, fun hf => { hf with half := ?_, hour := ?_ }⟩
  · intro n hn
    cases hn
    omega
  · intro n hn
    cases hn
    omega

theorem setMonth_fills {month : Int} (h : f.setMonth month = .ok g) :
    Fills f g := by
  obtain ⟨v, -, hg⟩ := bind_eq_ok_iff.mp h
  cases hg
  exact .dated rfl rfl rfl rfl rfl

theorem setWeekday_fills {weekday : Nat} (h : f.setWeekday weekday = .ok g) :
    Fills f g := by
  obtain ⟨v, -, hg⟩ := bind_eq_ok_iff.mp h
  cases hg
  exact .dated rfl rfl rfl rfl rfl

theorem setNanosecond_fills {nano : Int} (h : f.setNanosecond nano = .ok g) :
    Fills f g := by
  obtain ⟨v, -, hg⟩ := bind_eq_ok_iff.mp h
  cases hg
  exact .dated rfl rfl rfl rfl rfl

theorem setMinute_eq_ok {n : Int} (h : f.setNumber .minute n = .ok g) :
    0 ≤ n ∧ n ≤ 59 ∧ g = { f with minute := some n.toNat } := by
  obtain ⟨v, hv, hg⟩ := bind_eq_ok_iff.mp h
  cases hg
  obtain ⟨hlow, hhigh, rfl⟩ := agreeWithin_eq_ok hv
  exact ⟨hlow, hhigh, rfl⟩

theorem setSecond_eq_ok {n : Int} (h : f.setNumber .second n = .ok g) :
    0 ≤ n ∧ n ≤ 60 ∧ g = { f with second := some n.toNat } := by
  obtain ⟨v, hv, hg⟩ := bind_eq_ok_iff.mp h
  cases hg
  obtain ⟨hlow, hhigh, rfl⟩ := agreeWithin_eq_ok hv
  exact ⟨hlow, hhigh, rfl⟩

theorem setYear_eq_ok {n : Int} (h : f.setNumber .year n = .ok g) :
    g = { f with year := some n } := by
  obtain ⟨v, hv, hg⟩ := bind_eq_ok_iff.mp h
  cases hg
  unfold agreeYear at hv
  split at hv
  · rw [agree_eq_ok hv]
  · cases hv

theorem setOrdinal_eq_ok {n : Int} (h : f.setNumber .ordinal n = .ok g) :
    g = { f with ordinal := some n.toNat } := by
  obtain ⟨v, hv, hg⟩ := bind_eq_ok_iff.mp h
  cases hg
  obtain ⟨-, -, rfl⟩ := agreeWithin_eq_ok hv
  rfl

theorem setNumber_fills {field : NumberField} {n : Int}
    (h : f.setNumber field n = .ok g) : Fills f g := by
  cases field with
  | hour => exact setHour_fills h
  | hourOfHalf =>
      unfold setNumber at h
      dsimp only at h
      split at h
      · obtain ⟨v, hv, hg⟩ := bind_eq_ok_iff.mp h
        cases hg
        refine ⟨rfl, fun hf => { hf with hour := ?_ }⟩
        intro n hn
        cases (agree_eq_ok hv).symm.trans hn
        omega
      · cases h
  | minute =>
      obtain ⟨hlow, hhigh, rfl⟩ := setMinute_eq_ok h
      refine ⟨rfl, fun hf => { hf with minute := ?_ }⟩
      intro n hn
      cases hn
      omega
  | second =>
      obtain ⟨hlow, hhigh, rfl⟩ := setSecond_eq_ok h
      refine ⟨rfl, fun hf => { hf with second := ?_ }⟩
      intro n hn
      cases hn
      omega
  | month => exact setMonth_fills h
  | nanosecond => exact setNanosecond_fills h
  | daysFromSunday | daysFromMonday =>
      unfold setNumber at h
      dsimp only at h
      split at h
      · exact setWeekday_fills h
      · cases h
  | century | yearOfCentury | isoYearOfCentury =>
      unfold setNumber at h
      dsimp only at h
      split at h
      · obtain ⟨v, -, hg⟩ := bind_eq_ok_iff.mp h
        cases hg
        exact .dated rfl rfl rfl rfl rfl
      · cases h
  | year | isoYear | quarter | day | weekFromSunday | weekFromMonday
  | isoWeek | ordinal | timestamp =>
      obtain ⟨v, -, hg⟩ := bind_eq_ok_iff.mp h
      cases hg
      exact .dated rfl rfl rfl rfl rfl

-- ================================================================ dates

theorem orOutOfRange_eq_ok {found : Option Date} {date : Date}
    (h : orOutOfRange found = .ok date) : found = some date := by
  unfold orOutOfRange at h
  split at h
  · cases h
    rfl
  · cases h

theorem ofWeek_valid {year : Int} {week weekday first : Nat} {date : Date}
    (h : ofWeek year week weekday first = .ok date) : date.Valid := by
  unfold ofWeek at h
  split at h
  · cases h
  · split at h
    · cases h
    · dsimp only at h
      split at h
      · cases h
      · split at h
        · cases h
        · rename_i hfound
          cases h
          exact (Date.ofOrdinal?_eq_some hfound).2

/-- Every way to a date leads to a day that the calendar has. -/
theorem findDate_valid {year isoYear : Option Int} {date : Date}
    {agrees : Bool} (h : f.findDate year isoYear = .ok (date, agrees)) :
    date.Valid := by
  unfold findDate at h
  split at h
  · obtain ⟨found, hfound, h⟩ := bind_eq_ok_iff.mp h
    cases h
    exact (Date.ofMonthDay?_eq_some (orOutOfRange_eq_ok hfound)).2
  · split at h
    · obtain ⟨found, hfound, h⟩ := bind_eq_ok_iff.mp h
      cases h
      exact (Date.ofOrdinal?_eq_some (orOutOfRange_eq_ok hfound)).2
    · split at h
      · obtain ⟨found, hfound, h⟩ := bind_eq_ok_iff.mp h
        cases h
        exact ofWeek_valid hfound
      · obtain ⟨found, hfound, h⟩ := bind_eq_ok_iff.mp h
        cases h
        exact ofWeek_valid hfound
      · split at h
        · obtain ⟨found, hfound, h⟩ := bind_eq_ok_iff.mp h
          cases h
          exact Date.valid_ofIsoWeek? (orOutOfRange_eq_ok hfound)
        · cases h

/-- The date of fields is found for a year of theirs, and agrees with
them. -/
theorem date_eq_ok {date : Date} (h : f.date = .ok date) :
    ∃ year isoYear agrees,
      resolveYear f.year f.century f.yearOfCentury = .ok year
      ∧ f.findDate year isoYear = .ok (date, agrees) ∧ agrees = true := by
  obtain ⟨year, hyear, h⟩ := bind_eq_ok_iff.mp h
  obtain ⟨isoYear, -, h⟩ := bind_eq_ok_iff.mp h
  obtain ⟨⟨found, agrees⟩, hfound, h⟩ := bind_eq_ok_iff.mp h
  dsimp only at h
  split at h
  · rename_i hagrees
    cases h
    rw [Bool.and_eq_true] at hagrees
    exact ⟨year, isoYear, agrees, hyear, hfound, hagrees.1⟩
  · cases h

theorem date_valid {date : Date} (h : f.date = .ok date) : date.Valid := by
  obtain ⟨_, _, _, _, hfound, _⟩ := date_eq_ok h
  exact findDate_valid hfound

/-- A year that is given is the year. -/
theorem resolveYear_given {given : Int} {century ofCentury year : Option Int}
    (h : resolveYear (some given) century ofCentury = .ok year) :
    year = some given := by
  unfold resolveYear at h
  split at h
  · cases h
    rfl
  · rename_i heq _
    cases heq
    split at h
    · cases h
    · split at h
      · cases h
        rfl
      · cases h
  · rename_i heq
    cases heq
  · rename_i heq
    cases heq
  · rename_i heq
    cases heq

/-- Year and day of the year leave no choice. -/
theorem date_of_ordinal {year : Int} {ordinal : Nat} {date : Date}
    (hyear : f.year = some year) (hordinal : f.ordinal = some ordinal)
    (h : f.date = .ok date) : date = ⟨year, ordinal⟩ := by
  obtain ⟨resolved, isoYear, agrees, hresolved, hfound, hagrees⟩ :=
    date_eq_ok h
  rw [hyear] at hresolved
  obtain rfl := resolveYear_given hresolved
  subst hagrees
  unfold findDate at hfound
  split at hfound
  · -- month and day have to agree with the day of the year
    rename_i heq _ _
    cases heq
    obtain ⟨found, hdate, hfound⟩ := bind_eq_ok_iff.mp hfound
    injection hfound with hpair
    obtain ⟨rfl, hfits⟩ := Prod.mk.inj hpair
    obtain ⟨hsame, -⟩ := Date.ofMonthDay?_eq_some (orOutOfRange_eq_ok hdate)
    simp only [Bool.and_eq_true, agreesWithOrdinal, hordinal, fits,
      decide_eq_true_eq] at hfits
    cases found
    simp_all
  · rw [hordinal] at hfound
    obtain ⟨found, hdate, hfound⟩ := bind_eq_ok_iff.mp hfound
    injection hfound with hpair
    obtain ⟨rfl, -⟩ := Prod.mk.inj hpair
    exact (Date.ofOrdinal?_eq_some (orOutOfRange_eq_ok hdate)).1

-- ========================================================== time of day

theorem timeOfDay_lt (hf : f.Bounded) {time : TimeOfDay}
    (h : f.timeOfDay = .ok time) : time.second < 86400 := by
  unfold timeOfDay at h
  split at h
  · rename_i half hour minute hhalf hhour hminute
    have hhalf := hf.half half hhalf
    have hhour := hf.hour hour hhour
    have hminute := hf.minute minute hminute
    dsimp only at h
    split at h
    · cases h
      dsimp only
      omega
    · cases h
    · rename_i second hsecond
      have hsecond := hf.second second hsecond
      split at h
      · cases h
        dsimp only
        omega
      · cases h
        dsimp only
        omega
  · cases h

-- ========================================================== timestamps

/-- The fields filled from a local date and time, with the given second. -/
def filledFrom (f : Fields) (start : Instant) (second : Nat) : Fields :=
  { f with
    year := some start.date.year
    ordinal := some start.date.ordinal
    half := some (start.secondOfDay / 3600 / 12)
    hourOfHalf := some (start.secondOfDay / 3600 % 12)
    minute := some (start.secondOfDay / 60 % 60)
    second := some second }

/-- Fills what a local date and time tell, all but the second, and reads both
again. -/
def readFrom (f : Fields) (start : Instant) : Except TimeError Instant := do
  let f ← f.setNumber .year start.date.year
  let f ← f.setNumber .ordinal start.date.ordinal
  let f ← f.setHour (start.secondOfDay / 3600 : Nat)
  let f ← f.setNumber .minute (start.secondOfDay / 60 % 60 : Nat)
  let date ← f.date
  let time ← f.timeOfDay
  return Instant.ofDaySecond date.dayNumber time.second time.nano

theorem readFrom_filled (start : Instant) {t : Instant} {second : Nat}
    (hsecond : f.second = some second) (h : f.readFrom start = .ok t) :
    ∃ date time, (f.filledFrom start second).date = .ok date
      ∧ (f.filledFrom start second).timeOfDay = .ok time
      ∧ t = .ofDaySecond date.dayNumber time.second time.nano := by
  obtain ⟨_, hyear, h⟩ := bind_eq_ok_iff.mp h
  obtain rfl := setYear_eq_ok hyear
  obtain ⟨_, hordinal, h⟩ := bind_eq_ok_iff.mp h
  obtain rfl := setOrdinal_eq_ok hordinal
  obtain ⟨_, hhour, h⟩ := bind_eq_ok_iff.mp h
  obtain ⟨-, -, rfl⟩ := setHour_eq_ok hhour
  obtain ⟨_, hminute, h⟩ := bind_eq_ok_iff.mp h
  obtain ⟨-, -, rfl⟩ := setMinute_eq_ok hminute
  obtain ⟨date, hdate, h⟩ := bind_eq_ok_iff.mp h
  obtain ⟨time, htime, h⟩ := bind_eq_ok_iff.mp h
  cases h
  unfold filledFrom
  rw [← hsecond]
  exact ⟨date, time, hdate, htime, rfl⟩

/-- The second of a timestamp at an offset. Beside a leap second it may be
the second after it, which is one too many. -/
def startSecond (f : Fields) (given offset : Int) : Int :=
  if f.second = some 60 ∧ (given + offset) % 60 = 0 then given + offset - 1
  else given + offset

/-- A second of the minute that a local time is in, or the leap second behind
the last one. -/
def Ticks (start : Instant) (second : Nat) : Prop :=
  second = start.secondOfDay % 60
    ∨ second = 60 ∧ start.secondOfDay % 60 = 59

theorem localOfTimestamp_eq_ok {given offset : Int} {start : Instant}
    (h : localOfTimestamp given offset = .ok start) :
    start = ⟨given + offset, 0⟩ := by
  unfold localOfTimestamp at h
  dsimp only at h
  split at h
  · cases h
  · split at h
    · cases h
      rfl
    · cases h

/-- A timestamp at an offset is a local time, from which the fields are
filled. -/
theorem fromTimestamp_filled {given offset : Int} {t : Instant}
    (h : f.fromTimestamp given offset = .ok t) :
    ∃ start second date time,
      start.second = f.startSecond given offset
      ∧ Ticks start second ∧ (second = 60 ↔ f.second = some 60)
      ∧ (f.filledFrom start second).date = .ok date
      ∧ (f.filledFrom start second).timeOfDay = .ok time
      ∧ t = .ofDaySecond date.dayNumber time.second time.nano := by
  obtain ⟨start, hstart, h⟩ := bind_eq_ok_iff.mp h
  obtain rfl := localOfTimestamp_eq_ok hstart
  have hofMinute (second : Int) :
      ((Instant.secondOfDay ⟨second, 0⟩ % 60 : Nat) : Int) = second % 60 :=
    Instant.secondOfDay_mod _
  have hlast := hofMinute (given + offset)
  unfold startSecond
  by_cases hleap : f.second = some 60
  · simp only [hleap, if_true] at h
    split at h
    · rename_i hof
      obtain ⟨date, time, hdate, htime, ht⟩ := readFrom_filled _ hleap h
      rw [if_neg (by omega)]
      exact ⟨_, 60, date, time, rfl, .inr ⟨rfl, hof⟩, by simp [hleap],
        hdate, htime, ht⟩
    · split at h
      · -- the leap second counts with the second behind it
        obtain ⟨date, time, hdate, htime, ht⟩ :=
          readFrom_filled ⟨given + offset - 1, 0⟩ hleap h
        have hbefore := hofMinute (given + offset - 1)
        rw [if_pos ⟨hleap, by omega⟩]
        exact ⟨_, 60, date, time, rfl, .inr ⟨rfl, by omega⟩,
          by simp [hleap], hdate, htime, ht⟩
      · cases h
  · simp only [hleap, if_false] at h
    obtain ⟨g, hset, h⟩ := bind_eq_ok_iff.mp h
    obtain ⟨-, -, rfl⟩ := setSecond_eq_ok hset
    obtain ⟨date, time, hdate, htime, ht⟩ :=
      readFrom_filled ⟨given + offset, 0⟩ rfl h
    rw [if_neg fun h => hleap h.1]
    refine ⟨⟨given + offset, 0⟩, _, date, time, rfl, .inl rfl,
      iff_of_false ?_ hleap, hdate, htime, ht⟩
    omega

/-- The time of day of fields that are filled from a local time. -/
theorem timeOfDay_filledFrom {start : Instant} {second : Nat}
    (h : Ticks start second) :
    (f.filledFrom start second).timeOfDay = .ok ⟨start.secondOfDay,
      (if second = 60 then 1000000000 else 0) + f.nanosecond.getD 0⟩ := by
  have hshort := start.secondOfDay_lt
  have hminutes : (start.secondOfDay / 3600 / 12 * 12
      + start.secondOfDay / 3600 % 12) * 3600
      + start.secondOfDay / 60 % 60 * 60 + start.secondOfDay % 60
      = start.secondOfDay := by
    omega
  unfold timeOfDay filledFrom
  dsimp only
  obtain rfl | ⟨rfl, hlast⟩ := h
  · have hsecond : start.secondOfDay % 60 ≠ 60 := by omega
    rw [if_neg hsecond, if_neg hsecond, hminutes, Nat.zero_add]
  · rw [hlast] at hminutes
    rw [if_pos rfl, if_pos rfl, hminutes]

/-- The instant of a timestamp is the second that it gives, less one beside a
leap second where it is the one behind that. Nothing else in the fields can
make it another. -/
theorem fromTimestamp_eq_ok {given offset : Int} {t : Instant}
    (h : f.fromTimestamp given offset = .ok t) :
    t = ⟨f.startSecond given offset,
      (if f.second = some 60 then 1000000000 else 0) + f.nanosecond.getD 0⟩ := by
  obtain ⟨start, second, date, time, hstart, hticks, hleap, hdate, htime, rfl⟩ :=
    fromTimestamp_filled h
  obtain rfl : date = start.date := date_of_ordinal rfl rfl hdate
  cases (timeOfDay_filledFrom hticks).symm.trans htime
  rw [Instant.ofDaySecond_date, hstart]
  simp only [hleap]

end Fields

end Logline.Calendar
