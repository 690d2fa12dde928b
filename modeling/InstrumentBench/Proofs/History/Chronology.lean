import InstrumentBench.History.Entry
import InstrumentBench.Proofs.Decimal.Digits
import InstrumentBench.Proofs.History.Calendar
import InstrumentBench.Proofs.History.LogFile
import InstrumentBench.Proofs.Text.Bytes
import Mathlib.Order.Monotone.Defs

/-!
# Timestamps sort as they follow one another

Up to the end of the year 9999 every field of a timestamp has a fixed width, and the fields stand
in falling weight.  So a later second has the greater text.  Audit lines, which start with their
timestamp, and log files, which are named for their day, therefore sort in chronological order, as
texts and as bytes (`text_chronological`).  The year 10000 is one digit longer and comes too early.
-/

namespace InstrumentBench

/-! ## Texts of one width -/

/-- What stands in front of two texts leaves their order alone. -/
theorem Text.append_left_lt (front : String) {text other : String} (less : text < other) :
    front ++ text < front ++ other := by
  rw [String.lt_iff_toList_lt, String.toList_append, String.toList_append]
  exact List.append_left_lt (String.lt_iff_toList_lt.1 less)

/-- Texts of one length compare before what follows them. -/
theorem Text.append_lt_append {first second : List Char} (width : first.length = second.length)
    (less : first < second) (rest other : List Char) : first ++ rest < second ++ other := by
  induction first generalizing second with
  | nil =>
    rw [List.eq_nil_of_length_eq_zero width.symm] at less
    exact absurd less (List.lt_irrefl _)
  | cons c first ih =>
    cases second with
    | nil => exact absurd width (Nat.succ_ne_zero _)
    | cons d second =>
      rw [List.cons_append, List.cons_append, List.cons_lt_cons_iff]
      rcases List.cons_lt_cons_iff.1 less with leads | ⟨same, follows⟩
      · exact .inl leads
      · exact .inr ⟨same, ih (Nat.succ.inj width) follows⟩

/-- Texts compare as the numbers do that they are made from. -/
theorem Text.le_iff_le {first second : String} {number other : Nat}
    (before : number < other → first < second) (same : number = other → first = second)
    (after : other < number → second < first) : first ≤ second ↔ number ≤ other := by
  rcases Nat.lt_trichotomy number other with less | equal | greater
  · exact iff_of_true (before less).le less.le
  · exact iff_of_true (same equal).le equal.le
  · exact iff_of_false (after greater).not_ge greater.not_ge

namespace Decimal

theorem digitChar_lt {number other : Nat} (less : number % 10 < other % 10) :
    digitChar number < digitChar other := by
  have ordered : ∀ digit < 10, ∀ other < 10, digit < other →
      Char.ofNat (48 + digit) < Char.ofNat (48 + other) := by decide
  exact ordered _ (Nat.mod_lt _ (by decide)) _ (Nat.mod_lt _ (by decide)) less

/-- With leading zeros the greater number has the greater text. -/
theorem lowDigits_lt {width number other : Nat} (less : number < other)
    (short : other < 10 ^ width) : lowDigits width number < lowDigits width other := by
  induction width generalizing number other with
  | zero => omega
  | succ width ih =>
    rw [pow_succ] at short
    rw [lowDigits, lowDigits]
    by_cases front : number / 10 < other / 10
    · exact Text.append_lt_append (by simp) (ih front (by omega)) _ _
    · have same : number / 10 = other / 10 := by omega
      rw [same]
      apply List.append_left_lt
      exact List.cons_lt_cons_iff.2 (.inl (digitChar_lt (by omega)))

theorem paddedDigits_lt {width number other : Nat} (less : number < other)
    (short : other < 10 ^ width) : paddedDigits width number < paddedDigits width other := by
  rw [paddedDigits, paddedDigits, Nat.pow_eq, if_pos short, if_pos (less.trans short)]
  exact lowDigits_lt less short

/-- A number in front of others decides, and leaves the rest to decide if it is the same. -/
theorem paddedDigits_append_lt {width number other : Nat} {rest later : List Char}
    (short : other < 10 ^ width) (less : number < other ∨ number = other ∧ rest < later) :
    paddedDigits width number ++ rest < paddedDigits width other ++ later := by
  rcases less with less | ⟨rfl, less⟩
  · refine Text.append_lt_append ?_ (paddedDigits_lt less short) _ _
    rw [length_paddedDigits short, length_paddedDigits (less.trans short)]
  · exact List.append_left_lt less

end Decimal

namespace Timestamp

open Decimal

/-! ## Dates and times of day -/

section Fields

variable {mark : Char} {width first second third first' second' third' : Nat}

/-- Three numbers with a mark between them: both a date and a time of day are written so. -/
theorem fields_lt (short : first' < 10 ^ width ∧ second' < 100 ∧ third' < 100)
    (less : first < first' ∨ first = first' ∧
      (second < second' ∨ second = second' ∧ third < third')) :
    paddedDigits width first ++ mark :: paddedDigits 2 second ++ mark :: paddedDigits 2 third <
      paddedDigits width first' ++ mark :: paddedDigits 2 second' ++
        mark :: paddedDigits 2 third' := by
  obtain ⟨shortFirst, shortSecond, shortThird⟩ := short
  rw [List.append_assoc, List.append_assoc]
  apply paddedDigits_append_lt shortFirst
  refine less.imp_right (And.imp_right fun less => List.cons_lt_cons_iff.2 (.inr ⟨rfl, ?_⟩))
  apply paddedDigits_append_lt shortSecond
  refine less.imp_right (And.imp_right fun less => List.cons_lt_cons_iff.2 (.inr ⟨rfl, ?_⟩))
  exact paddedDigits_lt less shortThird

theorem length_fields (short : first < 10 ^ width ∧ second < 100 ∧ third < 100) :
    (paddedDigits width first ++ mark :: paddedDigits 2 second ++
      mark :: paddedDigits 2 third).length = width + 6 := by
  simp only [List.length_append, List.length_cons, length_paddedDigits short.1,
    @length_paddedDigits 2 _ short.2.1, @length_paddedDigits 2 _ short.2.2]

end Fields

namespace Date

theorem valid_ofDays (days : Nat) : (ofDays days).Valid := by
  rw [ofDays_eq_iterate]
  exact valid_iterate days

theorem rank_ofDays_lt {first second : Nat} (less : first < second) :
    (ofDays first).rank < (ofDays second).rank := by
  rw [ofDays_eq_iterate, ofDays_eq_iterate]
  exact rank_strictMono less

theorem Valid.fields_short {date : Date} (valid : date.Valid) (short : date.year < 10000) :
    date.year < 10 ^ 4 ∧ date.month < 100 ∧ date.day < 100 := by
  have day := valid.day_le.trans (monthLength_le _ _)
  have month := valid.month_le
  exact ⟨short, by omega, by omega⟩

/-- The greater rank is found at the first field that differs. -/
theorem Valid.fields_lt {date other : Date} (valid : date.Valid) (again : other.Valid)
    (less : date.rank < other.rank) : date.year < other.year ∨ date.year = other.year ∧
      (date.month < other.month ∨ date.month = other.month ∧ date.day < other.day) := by
  have day := valid.day_le.trans (monthLength_le _ _)
  have otherDay := again.day_le.trans (monthLength_le _ _)
  have month := valid.month_pos
  have otherMonth := again.month_le
  have := valid.month_le
  have := again.month_pos
  unfold rank at less
  omega

/-- The days before the year 10000. -/
def daysToYear10000 : Nat := 2932897

theorem year_lt {days : Nat} (early : days < daysToYear10000) : (ofDays days).year < 10000 := by
  have less := rank_ofDays_lt early
  have stop : (ofDays daysToYear10000).rank = (12 * 10000 + 1) * 32 + 1 := by decide
  have month := (valid_ofDays days).month_pos
  have day := (valid_ofDays days).day_pos
  rw [stop, rank] at less
  omega

/-- Before the year 10000 a later day has the greater date. -/
theorem chars_lt {first second : Nat} (less : first < second) (early : second < daysToYear10000) :
    (ofDays first).chars < (ofDays second).chars :=
  Timestamp.fields_lt ((valid_ofDays second).fields_short (year_lt early))
    ((valid_ofDays first).fields_lt (valid_ofDays second) (rank_ofDays_lt less))

theorem length_chars {days : Nat} (early : days < daysToYear10000) :
    (ofDays days).chars.length = 10 :=
  length_fields ((valid_ofDays days).fields_short (year_lt early))

theorem chars_append_lt {first second : Nat} (less : first < second)
    (early : second < daysToYear10000) (rest other : List Char) :
    (ofDays first).chars ++ rest < (ofDays second).chars ++ other := by
  refine Text.append_lt_append ?_ (chars_lt less early) _ _
  rw [length_chars (less.trans early), length_chars early]

end Date

theorem clockChars_lt {first second : Nat} (less : first < second)
    (inDay : second < secondsPerDay) : clockChars first < clockChars second := by
  unfold secondsPerDay at inDay
  exact fields_lt (by omega) (by omega)

theorem length_clockChars {second : Nat} (inDay : second < secondsPerDay) :
    (clockChars second).length = 8 := by
  unfold secondsPerDay at inDay
  exact length_fields (by omega)

/-! ## Timestamps -/

/-- The milliseconds before the year 10000. -/
def millisToYear10000 : Nat := 253402300800000

variable {first second : Nat}

theorem days_lt (early : first < millisToYear10000) :
    first / millisPerSecond / secondsPerDay < Date.daysToYear10000 := by
  unfold millisToYear10000 at early
  unfold millisPerSecond secondsPerDay Date.daysToYear10000
  omega

/-- A later second has the greater timestamp, whatever follows it. -/
theorem chars_append_lt (less : first / millisPerSecond < second / millisPerSecond)
    (early : second < millisToYear10000) (rest other : List Char) :
    chars first ++ rest < chars second ++ other := by
  have inDay : ∀ seconds, seconds % secondsPerDay < secondsPerDay :=
    fun seconds => Nat.mod_lt seconds (by decide)
  rw [chars, chars, date, date, List.append_assoc, List.append_assoc]
  by_cases days : first / millisPerSecond / secondsPerDay < second / millisPerSecond / secondsPerDay
  · exact Date.chars_append_lt days (days_lt early) _ _
  · have same : first / millisPerSecond / secondsPerDay =
        second / millisPerSecond / secondsPerDay :=
      Nat.le_antisymm (Nat.div_le_div_right less.le) (Nat.le_of_not_lt days)
    have clock : first / millisPerSecond % secondsPerDay <
        second / millisPerSecond % secondsPerDay := by
      unfold secondsPerDay at *
      omega
    rw [same]
    apply List.append_left_lt
    rw [List.cons_append, List.cons_append, List.cons_lt_cons_iff]
    refine .inr ⟨rfl, Text.append_lt_append ?_ (clockChars_lt clock (inDay _)) _ _⟩
    rw [length_clockChars (inDay _), length_clockChars (inDay _)]

/-- A later second has the greater text, whatever follows it. -/
theorem text_append_lt (less : first / millisPerSecond < second / millisPerSecond)
    (early : second < millisToYear10000) (rest other : String) :
    text first ++ rest < text second ++ other := by
  rw [String.lt_iff_toList_lt, String.toList_append, String.toList_append, text, text,
    String.toList_ofList, String.toList_ofList]
  exact chars_append_lt less early _ _

theorem text_lt (less : first / millisPerSecond < second / millisPerSecond)
    (early : second < millisToYear10000) : text first < text second := by
  simpa only [String.append_empty] using text_append_lt less early "" ""

/-- A later day has the greater date, whatever follows it. -/
theorem dateText_append_lt (less : first / millisPerSecond / secondsPerDay <
      second / millisPerSecond / secondsPerDay) (early : second < millisToYear10000)
    (rest other : String) : dateText first ++ rest < dateText second ++ other := by
  rw [String.lt_iff_toList_lt, String.toList_append, String.toList_append, dateText, dateText,
    String.toList_ofList, String.toList_ofList, date, date]
  exact Date.chars_append_lt less (days_lt early) _ _

theorem text_le (early : first < millisToYear10000) (later : second < millisToYear10000) :
    text first ≤ text second ↔ first / millisPerSecond ≤ second / millisPerSecond := by
  refine Text.le_iff_le (text_lt · later) (fun same => ?_) (text_lt · early)
  rw [text, text, chars, chars, date, date, same]

end Timestamp

/-! ## Log files and audit lines -/

/-- The names in a directory are told apart by what stands after one and the same front. -/
theorem Path.exists_join_eq (directory : String) :
    ∃ front, ∀ name, IsPiece name → join directory name = front ++ name := by
  by_cases closed : directory = "" ∨ endsInSlash directory
  · refine ⟨directory, fun name isPiece => ?_⟩
    rw [join, isPiece.not_isAbsolute, if_neg Bool.false_ne_true, if_pos closed]
  · refine ⟨directory ++ "/", fun name isPiece => ?_⟩
    rw [join, isPiece.not_isAbsolute, if_neg Bool.false_ne_true, if_neg closed]

namespace CommandLog

open Timestamp

variable {first second : Nat}

theorem file_lt (directory : String) (less : first / millisPerSecond / secondsPerDay <
      second / millisPerSecond / secondsPerDay) (early : second < millisToYear10000) :
    file directory first < file directory second := by
  obtain ⟨front, joined⟩ := Path.exists_join_eq (Configuration.logDirectory directory)
  rw [file, file, joined _ (isPiece_dateText first), joined _ (isPiece_dateText second)]
  exact Text.append_left_lt front (dateText_append_lt less early _ _)

theorem file_le (directory : String) (early : first < millisToYear10000)
    (later : second < millisToYear10000) :
    file directory first ≤ file directory second ↔
      first / millisPerSecond / secondsPerDay ≤ second / millisPerSecond / secondsPerDay := by
  refine Text.le_iff_le (file_lt directory · later) (fun same => ?_) (file_lt directory · early)
  rw [file, file, dateText, dateText, date, date, same]

end CommandLog

theorem Entry.auditLine_lt {entry other : Entry}
    (less : entry.millis / Timestamp.millisPerSecond < other.millis / Timestamp.millisPerSecond)
    (early : other.millis < Timestamp.millisToYear10000) : entry.auditLine < other.auditLine := by
  have dated : ∀ entry : Entry, ∃ rest,
      entry.auditLine = "[" ++ (Timestamp.text entry.millis ++ rest) := by
    intro entry
    rw [auditLine]
    simp only [String.append_assoc]
    exact ⟨_, rfl⟩
  obtain ⟨rest, line⟩ := dated entry
  obtain ⟨later, otherLine⟩ := dated other
  rw [line, otherLine]
  exact Text.append_left_lt "[" (Timestamp.text_append_lt less early _ _)

namespace Timestamp

/-- Before the year 10000, timestamps compare by their bytes as their seconds do, and the log files
of any configuration directory as their days do.  An audit line of an earlier second comes first,
whatever the entries say. -/
theorem text_chronological {first second : Nat} (early : first < 253402300800000)
    (later : second < 253402300800000) :
    (Text.bytes (text first) ≤ Text.bytes (text second) ↔ first / 1000 ≤ second / 1000) ∧
    (∀ directory,
      Text.bytes (CommandLog.file directory first) ≤
          Text.bytes (CommandLog.file directory second) ↔
        first / 1000 / 86400 ≤ second / 1000 / 86400) ∧
    ∀ entry other : Entry, entry.millis = first → other.millis = second →
      first / 1000 < second / 1000 →
      Text.bytes entry.auditLine < Text.bytes other.auditLine := by
  refine ⟨?_, fun directory => ?_, ?_⟩
  · rw [Text.bytes_le]
    exact text_le early later
  · rw [Text.bytes_le]
    exact CommandLog.file_le directory early later
  · rintro entry other rfl rfl less
    rw [Text.bytes_lt]
    exact Entry.auditLine_lt less later

/-- The second after the leap day of 2024 is in another month. -/
theorem text_chronological_leap_day :
    (1709251199999 < 253402300800000 ∧ 1709251200000 < 253402300800000) ∧
    text 1709251199999 = "2024-02-29 23:59:59" ∧ text 1709251200000 = "2024-03-01 00:00:00" ∧
    Text.bytes (text 1709251199999) ≤ Text.bytes (text 1709251200000) ∧
    ¬ Text.bytes (CommandLog.file "/etc" 1709251200000) ≤
      Text.bytes (CommandLog.file "/etc" 1709251199999) := by
  obtain ⟨seconds, days, -⟩ :=
    @text_chronological 1709251199999 1709251200000 (by decide) (by decide)
  obtain ⟨-, back, -⟩ := @text_chronological 1709251200000 1709251199999 (by decide) (by decide)
  refine ⟨by decide, by decide, by decide, seconds.2 (by decide), ?_⟩
  rw [back "/etc"]
  decide

/-- The year 10000 begins before the year 9999 ends, in the order of texts. -/
example : text 253402300800000 < text 253402300799000 := by decide

end Timestamp

end InstrumentBench
