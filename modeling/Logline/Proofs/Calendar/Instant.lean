/-
Days and the instants on them.

However a date is asked for, by a day of the year, of a month or of a week,
the calendar has the day that is found (`Date.Valid`). An instant is a second
of a day, and is taken apart into these two and put together again
(`Instant.date_ofDaySecond`, `Instant.ofDaySecond_date`).
-/
import Logline.Calendar.Instant
import Logline.Proofs.Calendar.Date

namespace Logline.Calendar

-- ================================================================ dates

namespace Date

/-- A day that the calendar has. -/
structure Valid (date : Date) : Prop where
  year : yearInRange date.year = true
  first : 1 ≤ date.ordinal
  last : date.ordinal ≤ daysInYear date.year

variable {year : Int} {date : Date}

theorem ofOrdinal?_eq_some {ordinal : Nat}
    (h : ofOrdinal? year ordinal = some date) :
    date = ⟨year, ordinal⟩ ∧ date.Valid := by
  unfold ofOrdinal? at h
  split at h
  · rename_i hin
    simp only [Bool.and_eq_true, decide_eq_true_eq] at hin
    cases h
    exact ⟨rfl, hin.1.1, hin.1.2, hin.2⟩
  · cases h

theorem ofMonthDay?_eq_some {month day : Nat}
    (h : ofMonthDay? year month day = some date) :
    date.year = year ∧ date.Valid := by
  unfold ofMonthDay? at h
  split at h
  · rename_i length hlength
    split at h
    · rename_i hin
      simp only [Bool.and_eq_true, decide_eq_true_eq] at hin
      obtain ⟨⟨⟨hyear, -⟩, hfirst⟩, hlast⟩ := hin
      cases h
      exact ⟨rfl, hyear, Nat.le_trans hfirst (Nat.le_add_left _ _),
        ordinal_le hlength hlast⟩
    · cases h
  · cases h

theorem valid_ofIsoWeek? {week weekday : Nat}
    (h : ofIsoWeek? year week weekday = some date) : date.Valid := by
  unfold ofIsoWeek? at h
  split at h
  · cases h
  · dsimp only at h
    rw [Option.ite_none_right_eq_some] at h
    obtain ⟨hyear, heq⟩ := h
    cases heq
    obtain ⟨-, hfirst, hlast⟩ := dayNumber_ofDayNumber _
    exact ⟨hyear, hfirst, hlast⟩

end Date

-- ============================================================= instants

namespace Instant

/-- A second of a day lies on that day. -/
theorem date_ofDaySecond {date : Date} (hdate : date.Valid) {second : Nat}
    (hsecond : second < 86400) (nano : Nat) :
    (ofDaySecond date.dayNumber second nano).date = date := by
  have hnumber : (ofDaySecond date.dayNumber second nano).dayNumber
      = date.dayNumber := by
    show Int.fdiv ((date.dayNumber - 719163) * 86400 + second) 86400
      + 719163 = date.dayNumber
    rw [Int.fdiv_eq_ediv_of_nonneg _ (by decide)]
    omega
  unfold Instant.date
  rw [hnumber]
  exact Date.ofDayNumber_dayNumber date hdate.first hdate.last

/-- An instant is put together again from its day and its second. -/
theorem ofDaySecond_date (t : Instant) (nano : Nat) :
    ofDaySecond t.date.dayNumber t.secondOfDay nano = ⟨t.second, nano⟩ := by
  have hday : t.date.dayNumber = t.second / 86400 + 719163 := by
    show (Date.ofDayNumber (Int.fdiv t.second 86400 + 719163)).dayNumber = _
    rw [(Date.dayNumber_ofDayNumber _).1,
      Int.fdiv_eq_ediv_of_nonneg _ (by decide)]
  unfold ofDaySecond epochDay secondOfDay
  rw [hday]
  congr 1
  omega

theorem secondOfDay_lt (t : Instant) : t.secondOfDay < 86400 := by
  unfold secondOfDay
  omega

theorem secondOfDay_mod (t : Instant) :
    ((t.secondOfDay % 60 : Nat) : Int) = t.second % 60 := by
  unfold secondOfDay
  omega

end Instant

end Logline.Calendar
