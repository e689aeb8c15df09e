/-
The times that lines of a log are stamped with.

A stamp is a day of the calendar and a second of that day, and it is written
in the layout that the default format reads. What is read there is the
instant of the stamp (`Stamp.parseTime_text`). The text is read item by item:
digits up to their width (`Spells`), a character as it is, or a blank. Every
number fills a field of its own, so nothing has to agree, and from the fields
the date is put together as the stamp has it.

That the instant is the right one is seen where it is written again: it shows
the digits of the stamp (`Stamp.zuluText_instant`).
-/
import Mathlib.Data.List.TakeWhile
import Logline.Addin.DateTime
import Logline.Proofs.Calendar.Instant

namespace Logline.Calendar

open Text

-- ============================================================== digits

/-- Digits that write a number in a width. -/
structure Spells (digits : List Char) (width n : Nat) : Prop where
  length : digits.length = width
  digit : ∀ c ∈ digits, c.isDigit = true
  value : Reading.numberOf digits = n

theorem numberOf_eq (digits : List Char) :
    Reading.numberOf digits = Nat.ofDigitChars 10 digits 0 := by
  unfold Reading.numberOf
  rw [Nat.ofDigitChars_eq_foldl]
  simp only [Nat.mul_comm]

/-- A number with zeros before it. -/
theorem spells_padded {width n : Nat} (hwidth : 0 < width)
    (h : n < Nat.pow 10 width) :
    Spells (Instant.padded width n).toList width n := by
  have hlength : (Nat.toDigits 10 n).length ≤ width :=
    (Nat.length_toDigits_le_iff (by decide) hwidth).mpr h
  unfold Instant.padded
  rw [String.toList_ofList]
  constructor
  · rw [List.length_append, List.length_replicate]
    omega
  · intro c hc
    rcases List.mem_append.mp hc with hc | hc
    · rw [(List.mem_replicate.mp hc).2]
      rfl
    · exact Nat.isDigit_of_mem_toDigits (by decide) (by decide) hc
  · rw [numberOf_eq, Nat.ofDigitChars_append,
      Nat.ofDigitChars_replicate_zero, Nat.mul_zero,
      Nat.ofDigitChars_toDigits (by decide) (by decide)]

theorem spells_two {n : Nat} (h : n < 100) :
    Spells (Instant.padded 2 n).toList 2 n :=
  spells_padded (by decide) h

theorem spells_four {n : Nat} (h : n < 10000) :
    Spells (Instant.padded 4 n).toList 4 n :=
  spells_padded (by decide) h

section

variable {digits rest : List Char} {width n : Nat}

theorem isBlank_of_isDigit {c : Char} (h : c.isDigit = true) :
    isBlank c = false := by
  have hall : ∀ k < 10, blankRanges.contains (48 + k) = false := by decide
  unfold Char.isDigit at h
  simp only [Bool.and_eq_true, decide_eq_true_eq] at h
  have hlow : 48 ≤ c.toNat := h.1
  have hhigh : c.toNat ≤ 57 := h.2
  have hc := hall (c.toNat - 48) (by omega)
  rw [Nat.add_sub_cancel' hlow] at hc
  exact hc

theorem dropBlanks_digits (h : ∀ c ∈ digits, c.isDigit = true)
    (hsome : digits ≠ []) (rest : List Char) :
    dropBlanks (digits ++ rest) = digits ++ rest := by
  obtain ⟨c, more, rfl⟩ := List.exists_cons_of_ne_nil hsome
  unfold Text.dropBlanks
  rw [List.cons_append, List.dropWhile_cons_of_neg]
  simp [isBlank_of_isDigit (h c (.head _))]

theorem Spells.ne_nil (h : Spells digits width n) (hwidth : 0 < width) :
    digits ≠ [] := by
  rintro rfl
  have hlength : 0 = width := h.length
  omega

theorem Spells.dropBlanks (h : Spells digits width n) (hwidth : 0 < width)
    (rest : List Char) : dropBlanks (digits ++ rest) = digits ++ rest :=
  dropBlanks_digits h.digit (h.ne_nil hwidth) rest

/-- Digits at both ends leave no white space to trim. -/
theorem trimBlanks_spells {last : List Char} {width' n' : Nat}
    (h : Spells digits width n) (hwidth : 0 < width)
    (hlast : Spells last width' n') (hwidth' : 0 < width')
    (middle : List Char) :
    trimBlanks (digits ++ (middle ++ last)) = digits ++ (middle ++ last) := by
  have hreverse : (digits ++ (middle ++ last)).reverse
      = last.reverse ++ (middle.reverse ++ digits.reverse) := by
    simp
  have hends : Text.dropBlanks (digits ++ (middle ++ last)).reverse
      = (digits ++ (middle ++ last)).reverse := by
    rw [hreverse]
    apply dropBlanks_digits
    · intro c hc
      exact hlast.digit c (List.mem_reverse.mp hc)
    · rw [Ne, List.reverse_eq_nil_iff]
      exact hlast.ne_nil hwidth'
  unfold trimBlanks
  rw [h.dropBlanks hwidth, hends, List.reverse_reverse]

-- ============================================================== reading

namespace Reading

/-- A number takes its digits and no more. -/
theorem number_spells (h : Spells digits width n) (hwidth : 0 < width)
    (hsmall : n ≤ 9223372036854775807) (rest : List Char) :
    number 1 (some width) (digits ++ rest) = .ok (n, rest) := by
  have hsome : ¬ byteLength (digits ++ rest) < 1 := by
    obtain ⟨c, more, rfl⟩ := List.exists_cons_of_ne_nil (h.ne_nil hwidth)
    have hsize := c.utf8Size_pos
    show ¬ c.utf8Size + byteLength (more ++ rest) < 1
    omega
  have hwindow : (digits ++ rest).take width = digits := by
    rw [← h.length, List.take_left]
  have hdigits : digits.takeWhile Char.isDigit = digits :=
    List.takeWhile_eq_self_iff.mpr h.digit
  have hdrop : (digits ++ rest).drop width = rest := by
    rw [← h.length, List.drop_left]
  unfold number
  simp only [hwindow, hdigits, h.value, h.length, hdrop]
  rw [if_neg hsome, if_neg (by omega), if_neg (by omega)]

theorem signedNumber_spells {field : NumberField}
    (hfield : Reading.width field = some width) (h : Spells digits width n)
    (hwidth : 0 < width) (hsmall : n ≤ 9223372036854775807)
    (rest : List Char) :
    signedNumber field (digits ++ rest) = .ok ((n : Int), rest) := by
  have hnumber := number_spells h hwidth hsmall rest
  have hdrop := h.dropBlanks hwidth rest
  obtain ⟨c, more, rfl⟩ := List.exists_cons_of_ne_nil (h.ne_nil hwidth)
  have hc : c.isDigit = true := h.digit c (.head _)
  unfold signedNumber
  rw [hdrop, hfield]
  rw [List.cons_append] at hnumber ⊢
  -- a digit is no sign
  split
  · rename_i heq
    cases (List.cons.inj heq).1
    cases hc
  · rename_i heq
    cases (List.cons.inj heq).1
    cases hc
  · rw [hnumber]
    rfl

variable {items : List Item} {f g : Fields}

theorem items_number {field : NumberField}
    (hfield : Reading.width field = some width) (h : Spells digits width n)
    (hwidth : 0 < width) (hsmall : n ≤ 9223372036854775807)
    (hset : f.setNumber field n = .ok g) :
    Reading.items (.number field :: items) f (digits ++ rest)
      = Reading.items items g rest := by
  simp only [Reading.items, item, plainItem,
    signedNumber_spells hfield h hwidth hsmall]
  show ((f.setNumber field n >>= fun f => pure (f, rest)) >>= _) = _
  rw [hset]
  rfl

theorem items_literal (c : Char) :
    Reading.items (.literal [c] :: items) f (c :: rest)
      = Reading.items items f rest := by
  have hlength : ¬ byteLength (c :: rest) < byteLength [c] := by
    show ¬ c.utf8Size + byteLength rest < c.utf8Size + 0
    omega
  have hread : literal [c] (c :: rest) = .ok rest := by
    unfold literal
    rw [if_neg hlength, if_pos (by simp [List.isPrefixOf])]
    rfl
  simp only [Reading.items, item, plainItem, hread]
  rfl

theorem items_space (hrest : dropBlanks rest = rest) :
    Reading.items (.space :: items) f (' ' :: rest)
      = Reading.items items f rest := by
  have hdrop : dropBlanks (' ' :: rest) = rest := hrest
  show (Except.ok (f, dropBlanks (' ' :: rest)) >>= _) = _
  rw [hdrop]
  rfl

end Reading

end

-- =============================================================== fields

namespace Fields

section

variable {f : Fields} {n : Nat}

theorem agreeWithin_none {low high : Int} (hlow : low ≤ n)
    (hhigh : (n : Int) ≤ high) : agreeWithin low high none n = .ok (some n) := by
  unfold agreeWithin
  rw [if_pos ⟨hlow, hhigh⟩]
  rfl

theorem setNumber_month (hnew : f.month = none) (hlow : 1 ≤ n)
    (hhigh : n ≤ 12) :
    f.setNumber .month n = .ok { f with month := some n } := by
  unfold setNumber setMonth
  rw [hnew, agreeWithin_none (by omega) (by omega)]
  rfl

theorem setNumber_day (hnew : f.day = none) (hlow : 1 ≤ n) (hhigh : n ≤ 31) :
    f.setNumber .day n = .ok { f with day := some n } := by
  unfold setNumber
  simp only [hnew]
  rw [agreeWithin_none (by omega) (by omega)]
  rfl

theorem setNumber_year (hnew : f.year = none) (hhigh : n ≤ 9999) :
    f.setNumber .year n = .ok { f with year := some (n : Int) } := by
  unfold setNumber
  simp only [hnew, agreeYear]
  rw [if_pos (by omega)]
  rfl

theorem setNumber_hour (hnew : f.half = none) (hnew' : f.hourOfHalf = none)
    (hhigh : n ≤ 23) :
    f.setNumber .hour n
      = .ok { f with half := some (n / 12), hourOfHalf := some (n % 12) } := by
  unfold setNumber setHour
  simp only [hnew, hnew']
  rw [if_pos (by omega)]
  rfl

theorem setNumber_minute (hnew : f.minute = none) (hhigh : n ≤ 59) :
    f.setNumber .minute n = .ok { f with minute := some n } := by
  unfold setNumber
  simp only [hnew]
  rw [agreeWithin_none (by omega) (by omega)]
  rfl

theorem setNumber_second (hnew : f.second = none) (hhigh : n ≤ 59) :
    f.setNumber .second n = .ok { f with second := some n } := by
  unfold setNumber
  simp only [hnew]
  rw [agreeWithin_none (by omega) (by omega)]
  rfl

end

end Fields

-- =============================================================== stamps

/-- A time that a line is stamped with: a day of the calendar in the years
from 0 to 9999, and a second of that day. -/
structure Stamp where
  year : Nat
  month : Nat
  day : Nat
  hour : Nat
  minute : Nat
  second : Nat
  year_le : year ≤ 9999
  month_ge : 1 ≤ month
  month_le : month ≤ 12
  day_ge : 1 ≤ day
  day_le : day ≤ (monthLengths year).getD (month - 1) 0
  hour_le : hour ≤ 23
  minute_le : minute ≤ 59
  second_le : second ≤ 59

namespace Stamp

/-- The stamp as it is written: month, day and year with strokes, a minus,
and the time of day with colons. -/
def text (s : Stamp) : String :=
  Instant.padded 2 s.month ++ "/" ++ Instant.padded 2 s.day ++ "/"
    ++ Instant.padded 4 s.year ++ " - " ++ Instant.padded 2 s.hour ++ ":"
    ++ Instant.padded 2 s.minute ++ ":" ++ Instant.padded 2 s.second

def date (s : Stamp) : Date :=
  ⟨s.year, Date.daysBeforeMonth s.year s.month + s.day⟩

def secondOfDay (s : Stamp) : Nat :=
  s.hour * 3600 + s.minute * 60 + s.second

/-- The instant of a stamp in UTC. -/
def instant (s : Stamp) : Instant :=
  .ofDaySecond s.date.dayNumber s.secondOfDay 0

-- ========================================================= what is read

section

variable (s : Stamp)

/-- The fields that a stamp fills. -/
def fields : Fields :=
  { Fields.empty with
    year := some s.year
    month := some s.month
    day := some s.day
    half := some (s.hour / 12)
    hourOfHalf := some (s.hour % 12)
    minute := some s.minute
    second := some s.second }

theorem toList_text : s.text.toList
    = (Instant.padded 2 s.month).toList ++ '/'
      :: ((Instant.padded 2 s.day).toList ++ '/'
      :: ((Instant.padded 4 s.year).toList ++ ' ' :: '-' :: ' '
      :: ((Instant.padded 2 s.hour).toList ++ ':'
      :: ((Instant.padded 2 s.minute).toList ++ ':'
      :: ((Instant.padded 2 s.second).toList ++ []))))) := by
  simp [text]

/-- The month of a stamp has a length, and the day is within it. -/
theorem exists_length : ∃ length,
    (monthLengths s.year)[s.month - 1]? = some length ∧ s.day ≤ length := by
  have hday := s.day_le
  rw [List.getD_eq_getElem?_getD] at hday
  cases hlength : (monthLengths s.year)[s.month - 1]? with
  | none =>
      rw [hlength] at hday
      exact absurd (Nat.le_trans s.day_ge hday) (by decide)
  | some length =>
      rw [hlength] at hday
      exact ⟨length, rfl, hday⟩

theorem day_le_31 : s.day ≤ 31 := by
  have hlengths : ∀ length ∈ monthLengths s.year, length ≤ 31 := by
    unfold monthLengths
    cases isLeap s.year <;> decide
  obtain ⟨length, hlength, hday⟩ := s.exists_length
  exact Nat.le_trans hday (hlengths length (List.mem_of_getElem? hlength))

theorem items_defaultFormat : Item.ofFormat Addin.DateTime.defaultFormat
    = [.number .month, .literal ['/'], .number .day, .literal ['/'],
      .number .year, .space, .literal ['-'], .space, .number .hour,
      .literal [':'], .number .minute, .literal [':'], .number .second] := by
  decide

open Reading Fields in
/-- Each number is read in its width and fills its field. -/
theorem fields_text :
    Reading.fields Addin.DateTime.defaultFormat s.text.toList
      = .ok s.fields := by
  have hday := s.day_le_31
  have hyear := s.year_le
  have hmonth := s.month_le
  have hhour := s.hour_le
  have hminute := s.minute_le
  have hsecond := s.second_le
  unfold Reading.fields
  rw [items_defaultFormat, toList_text,
    items_number rfl (spells_two (by omega)) (by decide) (by omega)
      (setNumber_month rfl s.month_ge hmonth), items_literal,
    items_number rfl (spells_two (by omega)) (by decide) (by omega)
      (setNumber_day rfl s.day_ge hday), items_literal,
    items_number rfl (spells_four (by omega)) (by decide) (by omega)
      (setNumber_year rfl hyear),
    items_space rfl, items_literal,
    items_space ((spells_two (by omega)).dropBlanks (by decide) _),
    items_number rfl (spells_two (by omega)) (by decide) (by omega)
      (setNumber_hour rfl rfl hhour), items_literal,
    items_number rfl (spells_two (by omega)) (by decide) (by omega)
      (setNumber_minute rfl hminute), items_literal,
    items_number rfl (spells_two (by omega)) (by decide) (by omega)
      (setNumber_second rfl hsecond)]
  rfl

theorem valid_date : s.date.Valid := by
  obtain ⟨length, hlength, hday⟩ := s.exists_length
  have hyears := s.year_le
  constructor
  · show yearInRange s.year = true
    unfold yearInRange
    rw [Bool.and_eq_true, decide_eq_true_eq, decide_eq_true_eq]
    omega
  · exact Nat.le_trans s.day_ge (Nat.le_add_left _ _)
  · exact Date.ordinal_le hlength hday

theorem date_fields : s.fields.date = .ok s.date := by
  obtain ⟨length, hlength, hday⟩ := s.exists_length
  have hdate : Date.ofMonthDay? s.year s.month s.day = some s.date :=
    Date.ofMonthDay?_eq s.valid_date.year s.month_ge hlength s.day_ge hday
  -- no other field says anything
  have hweek : s.fields.agreesWithIsoWeek s.date = true := by
    simp [Fields.agreesWithIsoWeek, Fields.fits, Fields.fitsCentury, fields,
      Fields.empty]
  have hordinal : s.fields.agreesWithOrdinal s.date = true := rfl
  have hfound : s.fields.findDate (some (s.year : Int)) none
      = .ok (s.date, true) := by
    show (Fields.orOutOfRange (Date.ofMonthDay? s.year s.month s.day)
      >>= _) = _
    rw [hdate]
    show Except.ok (s.date, s.fields.agreesWithIsoWeek s.date
      && s.fields.agreesWithOrdinal s.date) = _
    rw [hweek, hordinal]
    rfl
  have hresolved : Fields.resolveYear s.fields.year s.fields.century
      s.fields.yearOfCentury = .ok (some (s.year : Int)) := rfl
  unfold Fields.date
  rw [hresolved]
  show (s.fields.findDate (some (s.year : Int)) none >>= _) = _
  rw [hfound]
  rfl

theorem timeOfDay_fields :
    s.fields.timeOfDay = .ok ⟨s.secondOfDay, 0⟩ := by
  have hsecond := s.second_le
  have hhour : s.hour / 12 * 12 + s.hour % 12 = s.hour := by omega
  unfold Fields.timeOfDay fields secondOfDay
  simp only
  rw [if_neg (by omega), hhour]
  rfl

/-- A stamp has digits at both ends. -/
theorem trimBlanks_text : trimBlanks s.text.toList = s.text.toList := by
  have hends : ∃ middle, s.text.toList
      = (Instant.padded 2 s.month).toList
        ++ (middle ++ (Instant.padded 2 s.second).toList) := by
    refine ⟨"/".toList ++ (Instant.padded 2 s.day).toList ++ "/".toList
      ++ (Instant.padded 4 s.year).toList ++ " - ".toList
      ++ (Instant.padded 2 s.hour).toList ++ ":".toList
      ++ (Instant.padded 2 s.minute).toList ++ ":".toList, ?_⟩
    simp [text]
  obtain ⟨middle, hmiddle⟩ := hends
  have hmonth := s.month_le
  have hsecond := s.second_le
  rw [hmiddle]
  exact trimBlanks_spells (spells_two (by omega)) (by decide)
    (spells_two (by omega)) (by decide) middle

/-- The default format reads a stamp as its instant. -/
theorem parseTime_text :
    Addin.DateTime.parseTime s.text Addin.DateTime.defaultFormat
      = .ok s.instant := by
  have hoffset :
      Instant.asksForOffset Addin.DateTime.defaultFormat = false := by
    decide
  have hread : Instant.read s.text Addin.DateTime.defaultFormat
      = .ok s.instant := by
    unfold Instant.read
    rw [s.trimBlanks_text, s.fields_text, hoffset]
    show s.fields.localInstant 0 = _
    unfold Fields.localInstant
    rw [s.date_fields, s.timeOfDay_fields]
    rfl
  unfold Addin.DateTime.parseTime
  rw [hread]

example : Addin.DateTime.parseTime "02/09/2013 - 01:19:03"
    Addin.DateTime.defaultFormat = .ok ⟨1360372743, 0⟩ := by
  rfl

-- ====================================================== what is shown again

theorem secondOfDay_lt : s.secondOfDay < 86400 := by
  have hhour := s.hour_le
  have hminute := s.minute_le
  have hsecond := s.second_le
  unfold secondOfDay
  omega

theorem date_instant : s.instant.date = s.date :=
  Instant.date_ofDaySecond s.valid_date s.secondOfDay_lt 0

theorem secondOfDay_instant : s.instant.secondOfDay = s.secondOfDay := by
  have hshort := s.secondOfDay_lt
  show Int.toNat (((s.date.dayNumber - 719163) * 86400 + s.secondOfDay)
    % 86400) = s.secondOfDay
  omega

theorem monthDay_date : s.date.monthDay = (s.month, s.day) := by
  obtain ⟨length, hlength, hday⟩ := s.exists_length
  exact Date.monthDay_ofMonthDay s.month_ge hlength s.day_ge hday

/-- The stamp in the form for UTC that records are written in. -/
def zulu : String :=
  Instant.padded 4 s.year ++ "-" ++ Instant.padded 2 s.month ++ "-"
    ++ Instant.padded 2 s.day ++ "T" ++ Instant.padded 2 s.hour ++ ":"
    ++ Instant.padded 2 s.minute ++ ":" ++ Instant.padded 2 s.second ++ "Z"

/-- The instant of a stamp shows the digits of the stamp. -/
theorem zuluText_instant : s.instant.zuluText = s.zulu := by
  have hyears := s.year_le
  have hminutes := s.minute_le
  have hseconds := s.second_le
  have hyear : Instant.yearText s.date.year = Instant.padded 4 s.year := by
    unfold Instant.yearText
    rw [if_pos]
    · rfl
    · show 0 ≤ (s.year : Int) ∧ (s.year : Int) ≤ 9999
      omega
  have hmonth : s.date.month = s.month := congrArg Prod.fst s.monthDay_date
  have hday : s.date.day = s.day := congrArg Prod.snd s.monthDay_date
  have hhour : s.secondOfDay / 3600 = s.hour := by
    unfold secondOfDay
    omega
  have hminute : s.secondOfDay / 60 % 60 = s.minute := by
    unfold secondOfDay
    omega
  have hsecond : s.secondOfDay % 60 = s.second := by
    unfold secondOfDay
    omega
  have hwhole : s.instant.nano / 1000000000 = 0 := Nat.zero_div _
  have hfraction :
      Instant.fractionText (s.instant.nano % 1000000000) = "" := by
    rfl
  unfold Instant.zuluText Instant.dateTimeText zulu
  simp only [s.date_instant, s.secondOfDay_instant, hyear, hmonth, hday,
    hhour, hminute, hsecond, hwhole, hfraction, Nat.add_zero,
    String.append_empty]

end

end Stamp

end Logline.Calendar
