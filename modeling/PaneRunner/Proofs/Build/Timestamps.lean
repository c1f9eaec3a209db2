import PaneRunner.Proofs.Build.Dates
import PaneRunner.Proofs.Numbers.Words
import PaneRunner.Proofs.Text.Numerals

/-
  Timestamps. `WordMoment.ofSecs` computes the date and the time of a second in words, with every
  operation checked; it meets no fault, and what it comes to are the numbers of the calendar
  (`WordMoment.exists_ofSecs`). The text of a moment shows all of it (`Moment.text_inj`), so a
  timestamp stands for one moment (`Moment.timestamp_eq_text_iff`), and that is the second that it
  was made of (`Moment.secs_ofSecs`).
-/
namespace PaneRunner.Build

open Text.Decimal (padded padded_append_inj)
open Words (Fault ok_bind)

/-! ## Dates in words -/

/-- The year of a day of an era; see `yearOfEra`. -/
def wordYearOfEra (doe : Int64) : Except Fault Int64 := do
  let cycles ← Words.div doe 1460
  let days ← Words.sub doe cycles
  let centuries ← Words.div doe 36524
  let days ← Words.add days centuries
  let eras ← Words.div doe 146096
  let days ← Words.sub days eras
  Words.div days 365

/-- The day of a year, the first of March being number 0. -/
def wordDayOfYear (doe yoe : Int64) : Except Fault Int64 := do
  let days ← Words.mul 365 yoe
  let cycles ← Words.div yoe 4
  let days ← Words.add days cycles
  let centuries ← Words.div yoe 100
  let days ← Words.sub days centuries
  Words.sub doe days

def wordMonthIndex (doy : Int64) : Except Fault Int64 := do
  let n ← Words.mul 5 doy
  let n ← Words.add n 2
  Words.div n 153

/-- The number of a month, January being 1, from its number from March on. -/
def wordMonth (i : Int64) : Except Fault UInt32 := do
  let month ← if i < 10 then Words.add i 3 else Words.sub i 9
  Words.narrow month.toInt

theorem wordYearOfEra_ofNat {doe : Nat} (h : doe < eraDays) :
    wordYearOfEra (.ofNat doe) = .ok (.ofNat (yearOfEra doe)) := by
  unfold eraDays at h
  unfold wordYearOfEra yearOfEra
  simp (disch := omega) only [Words.literal, Words.div_ofNat, Words.sub_ofNat, Words.add_ofNat,
    ok_bind]

/-- In the year that a day is in, no difference falls below zero. -/
theorem wordDayOfYear_index (p : Place) :
    wordDayOfYear (.ofNat p.index) (.ofNat p.eraYear) = .ok (.ofNat p.day) := by
  have hindex := p.index_lt
  have hyear := p.eraYear_lt
  have hstart := p.yearStart_eq
  have hday : p.index = p.yearStart + p.day := rfl
  unfold eraDays at hindex
  unfold wordDayOfYear
  simp (disch := omega) only [Words.literal, Words.mul_ofNat, Words.div_ofNat, Words.sub_ofNat,
    Words.add_ofNat, ok_bind]
  rw [← hstart, hday, Nat.add_sub_cancel_left]

theorem wordMonthIndex_ofNat {doy : Nat} (h : doy ≤ 365) :
    wordMonthIndex (.ofNat doy) = .ok (.ofNat (monthIndex doy)) := by
  unfold wordMonthIndex monthIndex
  simp (disch := omega) only [Words.literal, Words.mul_ofNat, Words.div_ofNat, Words.add_ofNat,
    ok_bind]

theorem wordMonth_ofNat {i : Nat} (h : i < 12) :
    wordMonth (.ofNat i) = .ok (.ofNat (if i < 10 then i + 3 else i - 9)) := by
  unfold wordMonth
  simp only [Words.literal]
  by_cases hi : i < 10
  · rw [if_pos ((Words.ofNat_lt_iff (by omega) (by omega)).2 hi), if_pos hi,
      Words.add_ofNat (by omega), ok_bind, Int64.toInt_ofNat_of_lt (by omega),
      Words.narrow_natCast (by omega)]
  · rw [if_neg (mt (Words.ofNat_lt_iff (by omega) (by omega)).1 hi), if_neg hi,
      Words.sub_ofNat (by omega) (by omega), ok_bind, Int64.toInt_ofNat_of_lt (by omega),
      Words.narrow_natCast (by omega)]

/-- A date in words. -/
structure WordDate where
  year : Int64
  month : UInt32
  day : UInt32

namespace WordDate

/-- The date of a day of a year that starts in March. -/
def ofMarch (year doy : Int64) : Except Fault WordDate := do
  let i ← wordMonthIndex doy
  let start ← Words.mul 153 i
  let start ← Words.add start 2
  let start ← Words.div start 5
  let day ← Words.sub doy start
  let day ← Words.add day 1
  let day ← Words.narrow day.toInt
  let month ← wordMonth i
  let year ← Words.add year (if month ≤ 2 then 1 else 0)
  return ⟨year, month, day⟩

/-- The date so many days after the first of January 1970. -/
def ofDays (days : Int64) : Except Fault WordDate := do
  let z ← Words.add days 719468
  let era ← Words.divFloor z 146097
  let doe ← Words.modFloor z 146097
  let yoe ← wordYearOfEra doe
  let doy ← wordDayOfYear doe yoe
  let eras ← Words.mul era 400
  let year ← Words.add yoe eras
  ofMarch year doy

/-- The words of a date. -/
def ofDate (d : Date) : WordDate := ⟨.ofNat d.year, .ofNat d.month, .ofNat d.day⟩

/-- The words stand for the numbers of a date. -/
def Shows (w : WordDate) (d : Date) : Prop :=
  w.year.toInt = d.year ∧ w.month.toNat = d.month ∧ w.day.toNat = d.day

/-- January and February count to the year after. -/
theorem turn_ofNat {month : Nat} (h : month < 2 ^ 32) :
    (if UInt32.ofNat month ≤ 2 then (.ofNat 1 : Int64) else .ofNat 0) =
      .ofNat (if month ≤ 2 then 1 else 0) := by
  have hle : UInt32.ofNat month ≤ 2 ↔ month ≤ 2 := by
    rw [UInt32.le_iff_toNat_le, UInt32.toNat_ofNat_of_lt' h]
    rfl
  rw [apply_ite Int64.ofNat]
  simp only [hle]

theorem ofMarch_ofNat {year doy : Nat} (hy : year < 2 ^ 62) (h : doy ≤ 365) :
    ofMarch (.ofNat year) (.ofNat doy) = .ok (ofDate (Date.ofMarch year doy)) := by
  obtain ⟨hi, hle, -⟩ := monthIndex_bounds h
  obtain ⟨month, hmonth⟩ :
      ∃ m, m = if monthIndex doy < 10 then monthIndex doy + 3 else monthIndex doy - 9 := ⟨_, rfl⟩
  have hlt : month < 2 ^ 32 := by
    rw [hmonth]
    split <;> omega
  have hyear : year + (if month ≤ 2 then 1 else 0) < 2 ^ 63 := by split <;> omega
  unfold ofMarch
  rw [wordMonthIndex_ofNat h, ok_bind]
  simp only [Words.literal]
  rw [Words.mul_ofNat (by omega) (by omega) (by omega), ok_bind, Words.add_ofNat (by omega),
    ok_bind, Words.div_ofNat (by omega) (by omega) (by omega), ok_bind,
    Words.sub_ofNat hle (by omega), ok_bind, Words.add_ofNat (by omega), ok_bind,
    Int64.toInt_ofNat_of_lt (by omega), Words.narrow_natCast (by omega), ok_bind,
    wordMonth_ofNat hi, ok_bind, ← hmonth, turn_ofNat hlt, Words.add_ofNat hyear, ok_bind, hmonth]
  rfl

theorem ofDays_ofNat {days : Nat} (h : days < 2 ^ 62) :
    ofDays (.ofNat days) = .ok (ofDate (Date.ofDays days)) := by
  obtain ⟨p, hp⟩ := Date.exists_place days
  have hyear := p.eraYear_lt
  have hday := p.day_le
  rw [Date.ofDays_eq_ofMarch hp]
  unfold ofDays
  simp only [Words.literal]
  rw [Words.add_ofNat (by omega), ok_bind, Words.divFloor_ofNat (by omega) (by omega) (by omega),
    ok_bind, Words.modFloor_ofNat (by omega) (by omega) (by omega), ok_bind, ← eraDays, ← hp,
    wordYearOfEra_ofNat p.index_lt, ok_bind, p.yearOfEra_index, wordDayOfYear_index, ok_bind,
    eraDays, Words.mul_ofNat (by omega) (by omega) (by omega), ok_bind, Words.add_ofNat (by omega),
    ok_bind]
  exact ofMarch_ofNat (by omega) (by omega)

/-- The casts of a date keep its numbers. -/
theorem shows_ofDays {days : Nat} (h : days < 2 ^ 62) :
    (ofDate (Date.ofDays days)).Shows (Date.ofDays days) := by
  have hdate := Date.isDate_ofDays days
  have hyear := Date.year_ofDays_le days
  have hmonth := hdate.month_le
  have hday := hdate.day_le.trans (monthLength_le _ _)
  refine ⟨Int64.toInt_ofNat_of_lt (by omega), UInt32.toNat_ofNat_of_lt' ?_,
    UInt32.toNat_ofNat_of_lt' ?_⟩
  · rw [UInt32.size]
    omega
  · rw [UInt32.size]
    omega

end WordDate

/-! ## Moments -/

/-- A second of a day. -/
structure Moment where
  date : Date
  hour : Nat
  minute : Nat
  second : Nat
  deriving DecidableEq, Repr

namespace Moment

/-- The moment so many seconds after the start of 1970. -/
def ofSecs (secs : Nat) : Moment :=
  ⟨Date.ofDays (secs / 86400), secs % 86400 / 3600, secs % 86400 % 3600 / 60, secs % 86400 % 60⟩

/-- The seconds from the start of 1970 to a moment. -/
def secs (m : Moment) : Int :=
  dayNumber m.date.year m.date.month m.date.day * 86400 + m.hour * 3600 + m.minute * 60 + m.second

def text (m : Moment) : String :=
  padded 4 m.date.year ++ "-" ++ padded 2 m.date.month ++ "-" ++ padded 2 m.date.day ++ "T" ++
    padded 2 m.hour ++ ":" ++ padded 2 m.minute ++ ":" ++ padded 2 m.second ++ "Z"

theorem text_ofSecs (secs : Nat) : (ofSecs secs).text = timestamp secs := rfl

theorem toList_text (m : Moment) : m.text.toList =
    (padded 4 m.date.year).toList ++ '-' :: ((padded 2 m.date.month).toList ++ '-' ::
      ((padded 2 m.date.day).toList ++ 'T' :: ((padded 2 m.hour).toList ++ ':' ::
        ((padded 2 m.minute).toList ++ ':' :: ((padded 2 m.second).toList ++ ['Z']))))) := by
  simp [text, String.toList_append]

/-- The text of a moment shows all of it: every number ends where the next sign stands. -/
theorem text_inj {m m' : Moment} (h : m.text = m'.text) : m = m' := by
  have hlist := congrArg String.toList h
  rw [toList_text, toList_text] at hlist
  obtain ⟨hyear, hlist⟩ := (padded_append_inj (by decide)).1 hlist
  obtain ⟨hmonth, hlist⟩ := (padded_append_inj (by decide)).1 hlist
  obtain ⟨hday, hlist⟩ := (padded_append_inj (by decide)).1 hlist
  obtain ⟨hhour, hlist⟩ := (padded_append_inj (by decide)).1 hlist
  obtain ⟨hminute, hlist⟩ := (padded_append_inj (by decide)).1 hlist
  obtain ⟨hsecond, -⟩ := (padded_append_inj (by decide)).1 hlist
  obtain ⟨⟨year, month, day⟩, hour, minute, second⟩ := m
  obtain ⟨⟨year', month', day'⟩, hour', minute', second'⟩ := m'
  simp only at hyear hmonth hday hhour hminute hsecond
  rw [hyear, hmonth, hday, hhour, hminute, hsecond]

theorem timestamp_eq_text_iff {secs : Nat} {m : Moment} :
    timestamp secs = m.text ↔ m = ofSecs secs := by
  rw [← text_ofSecs]
  exact ⟨fun h => (text_inj h).symm, fun h => congrArg text h.symm⟩

theorem time_ofSecs (secs : Nat) :
    (ofSecs secs).hour < 24 ∧ (ofSecs secs).minute < 60 ∧ (ofSecs secs).second < 60 := by
  simp only [ofSecs]
  omega

theorem secs_ofSecs (secs : Nat) : (ofSecs secs).secs = secs := by
  simp only [ofSecs, Moment.secs, Date.dayNumber_ofDays]
  omega

end Moment

/-- A moment in words. -/
structure WordMoment where
  date : WordDate
  hour : UInt64
  minute : UInt64
  second : UInt64

namespace WordMoment

/-- The moment so many seconds after the start of 1970, its days cast to a signed word. -/
def ofSecs (secs : UInt64) : Except Fault WordMoment := do
  let days ← Words.signed (secs / 86400).toNat
  let date ← WordDate.ofDays days
  let rem := secs % 86400
  return ⟨date, rem / 3600, rem % 3600 / 60, rem % 60⟩

/-- The words stand for the numbers of a moment. -/
def Shows (w : WordMoment) (m : Moment) : Prop :=
  w.date.Shows m.date ∧ w.hour.toNat = m.hour ∧ w.minute.toNat = m.minute ∧
    w.second.toNat = m.second

/-- No second makes an operation overflow or a cast lose anything. -/
theorem exists_ofSecs (secs : UInt64) :
    ∃ w, ofSecs secs = .ok w ∧ w.Shows (.ofSecs secs.toNat) := by
  have hsecs := secs.toNat_lt
  have hdays : (secs / 86400).toNat = secs.toNat / 86400 := UInt64.toNat_div secs 86400
  refine ⟨⟨.ofDate (Date.ofDays (secs.toNat / 86400)), secs % 86400 / 3600,
    secs % 86400 % 3600 / 60, secs % 86400 % 60⟩, ?_, ?_⟩
  · rw [ofSecs, hdays, Words.signed_natCast (by omega), ok_bind, WordDate.ofDays_ofNat (by omega),
      ok_bind]
    rfl
  · exact ⟨WordDate.shows_ofDays (by omega), rfl, rfl, rfl⟩

end WordMoment

/-! ## Timestamps -/

/-- A timestamp stands for one moment: the date that the calendar counts the days to, and a time of
that day, which together are the seconds that the timestamp was made of. -/
theorem timestamp_faithful (secs : UInt64) :
    ∃ m : Moment, (∀ m' : Moment, timestamp secs.toNat = m'.text ↔ m' = m) ∧
      m.date = Date.ofDays (secs.toNat / 86400) ∧
      (∀ (year : Int) (month day : Nat),
        IsDate year month day ∧ dayNumber year month day = (secs.toNat / 86400 : Nat) ↔
          year = m.date.year ∧ month = m.date.month ∧ day = m.date.day) ∧
      (∃ w, WordMoment.ofSecs secs = .ok w ∧ w.Shows m) ∧
      m.hour < 24 ∧ m.minute < 60 ∧ m.second < 60 ∧ m.secs = secs.toNat := by
  obtain ⟨hhour, hminute, hsecond⟩ := Moment.time_ofSecs secs.toNat
  exact ⟨.ofSecs secs.toNat, fun m' => Moment.timestamp_eq_text_iff, rfl,
    fun year month day => Date.eq_ofDays_iff, WordMoment.exists_ofSecs secs, hhour, hminute,
    hsecond, Moment.secs_ofSecs secs.toNat⟩

end PaneRunner.Build
