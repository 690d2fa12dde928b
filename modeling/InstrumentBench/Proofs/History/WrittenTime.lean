import InstrumentBench.Proofs.History.MachineDate
import InstrumentBench.Proofs.History.Timestamp
import InstrumentBench.Proofs.Text.Cutting

/-!
# Timestamps as dates and times of day

A timestamp is written as the calendar date of its day and the time of its second.  So two
timestamps look the same exactly if they lie in the same second (`text_calendar`).
-/

namespace InstrumentBench

/-! ## Texts cut at marks -/

/-- A text is cut in one way at the first of its marks. -/
theorem Text.cut_unique {mark : Char} {first second rest other : List Char} (absent : mark ∉ first)
    (missing : mark ∉ second) (same : first ++ mark :: rest = second ++ mark :: other) :
    first = second ∧ rest = other := by
  have cut := cutAt_append absent [] rest
  have again := cutAt_append missing [] other
  rw [List.singleton_append] at cut again
  rw [same, again, Option.some.injEq, Prod.mk.injEq] at cut
  exact ⟨cut.1.symm, cut.2.symm⟩

/-- What stands before a mark as a padded number is one number only. -/
theorem Decimal.Padded.cut_unique {mark : Char} (noDigit : isDigit mark = false)
    {width number other : Nat} {first second rest later : List Char}
    (padded : Padded width number first) (again : Padded width other second)
    (same : first ++ mark :: rest = second ++ mark :: later) : number = other ∧ rest = later := by
  obtain ⟨rfl, rest⟩ := Text.cut_unique (padded.not_mem noDigit) (again.not_mem noDigit) same
  exact ⟨padded.value_eq.symm.trans again.value_eq, rest⟩

namespace Timestamp

open Decimal

/-! ## Written dates and times -/

/-- A date as it is written: at least four digits for the year, two for the month and two for the
day. -/
def Date.Written (date : Date) (text : List Char) : Prop :=
  ∃ year month day, text = year ++ '-' :: (month ++ '-' :: day) ∧ Padded 4 date.year year ∧
    Padded 2 date.month month ∧ month.length = 2 ∧ Padded 2 date.day day ∧ day.length = 2

/-- A time of day as it is written: two digits each for the hour, the minute and the second. -/
def TimeWritten (secondOfDay : Nat) (text : List Char) : Prop :=
  ∃ hour minute second, hour < 24 ∧ minute < 60 ∧ second < 60 ∧
    secondOfDay = 3600 * hour + 60 * minute + second ∧
    ∃ hours minutes seconds, text = hours ++ ':' :: (minutes ++ ':' :: seconds) ∧
      Padded 2 hour hours ∧ hours.length = 2 ∧ Padded 2 minute minutes ∧ minutes.length = 2 ∧
      Padded 2 second seconds ∧ seconds.length = 2

theorem Date.Valid.written {date : Date} (valid : date.Valid) : date.Written date.chars := by
  have month := valid.month_le
  have day := valid.day_le.trans (monthLength_le _ _)
  exact ⟨_, _, _, by simp [Date.chars], padded_paddedDigits 4 _,
    padded_paddedDigits 2 _, length_paddedDigits (by omega),
    padded_paddedDigits 2 _, length_paddedDigits (by omega)⟩

theorem timeWritten_clockChars {secondOfDay : Nat} (inDay : secondOfDay < 86400) :
    TimeWritten secondOfDay (clockChars secondOfDay) :=
  ⟨secondOfDay / 3600, secondOfDay % 3600 / 60, secondOfDay % 60, by omega, by omega, by omega,
    by omega, _, _, _, by simp [clockChars],
    padded_paddedDigits 2 _, length_paddedDigits (by omega),
    padded_paddedDigits 2 _, length_paddedDigits (by omega),
    padded_paddedDigits 2 _, length_paddedDigits (by omega)⟩

/-- A text is the date of one day at most. -/
theorem Date.Written.unique {date other : Date} {text : List Char} (written : date.Written text)
    (again : other.Written text) : date = other := by
  obtain ⟨year, month, day, rfl, isYear, isMonth, -, isDay, -⟩ := written
  obtain ⟨year', month', day', same, isYear', isMonth', -, isDay', -⟩ := again
  obtain ⟨years, same⟩ := isYear.cut_unique rfl isYear' same
  obtain ⟨months, rfl⟩ := isMonth.cut_unique rfl isMonth' same
  have days := isDay.value_eq.symm.trans isDay'.value_eq
  cases date
  cases other
  simp_all

theorem TimeWritten.unique {secondOfDay other : Nat} {text : List Char}
    (written : TimeWritten secondOfDay text) (again : TimeWritten other text) :
    secondOfDay = other := by
  obtain ⟨hour, minute, second, -, -, -, rfl, _, _, _, rfl, isHour, -, isMinute, -, isSecond, -⟩ :=
    written
  obtain ⟨hour', minute', second', -, -, -, rfl, _, _, _, same, isHour', -, isMinute', -,
    isSecond', -⟩ := again
  obtain ⟨rfl, same⟩ := isHour.cut_unique rfl isHour' same
  obtain ⟨rfl, rfl⟩ := isMinute.cut_unique rfl isMinute' same
  rw [isSecond.value_eq.symm.trans isSecond'.value_eq]

/-- A timestamp is written as its calendar date and its time of day. -/
theorem chars_written (millis : Nat) :
    ∃ dateText timeText, chars millis = dateText ++ ' ' :: timeText ∧ ' ' ∉ dateText ∧
      (Date.next^[millis / 1000 / 86400] Date.epoch).Written dateText ∧
      TimeWritten (millis / 1000 % 86400) timeText := by
  refine ⟨(date millis).chars, clockChars (millis / 1000 % 86400), rfl,
    not_mem_date rfl (by decide) _, ?_, timeWritten_clockChars (Nat.mod_lt _ (by decide))⟩
  have reached : date millis = Date.next^[millis / 1000 / 86400] Date.epoch :=
    Date.ofDays_eq_iterate _
  rw [reached]
  exact (Date.valid_iterate _).written

/-- Timestamps that look the same lie in the same second. -/
theorem seconds_eq_of_chars_eq {first second : Nat} (same : chars first = chars second) :
    first / 1000 = second / 1000 := by
  obtain ⟨dateText, timeText, written, noBlank, dated, timed⟩ := chars_written first
  obtain ⟨dateText', timeText', written', noBlank', dated', timed'⟩ := chars_written second
  rw [written, written'] at same
  obtain ⟨rfl, rfl⟩ := Text.cut_unique noBlank noBlank' same
  have days := Date.iterate_injective (dated.unique dated')
  have seconds := timed.unique timed'
  omega

/-- A timestamp is written as the date that counting its days from the first of January 1970 gives,
and the time of its second in that day.  So it is the second that decides how a timestamp looks.
The date is computed in 64-bit words without a step that leaves its word. -/
theorem text_calendar :
    (∀ millis : Nat,
      (Date.next^[millis / 1000 / 86400] Date.epoch).Valid ∧
      ∃ dateText timeText, (text millis).toList = dateText ++ ' ' :: timeText ∧
        (Date.next^[millis / 1000 / 86400] Date.epoch).Written dateText ∧
        TimeWritten (millis / 1000 % 86400) timeText) ∧
    (∀ first second : Nat, text first = text second ↔ first / 1000 = second / 1000) ∧
    ∀ seconds : UInt64,
      Date.ofSeconds? seconds = some (Date.ofDays (seconds.toNat / 86400)) := by
  refine ⟨?_, ?_, Date.ofSeconds?_eq⟩
  · intro millis
    obtain ⟨dateText, timeText, written, -, dated, timed⟩ := chars_written millis
    refine ⟨Date.valid_iterate _, dateText, timeText, ?_, dated, timed⟩
    rw [text, String.toList_ofList, written]
  · intro first second
    constructor
    · exact fun same => seconds_eq_of_chars_eq (String.ofList_injective same)
    · intro same
      rw [text, text, chars, chars, date, date, millisPerSecond, same]

end Timestamp

end InstrumentBench
