import InstrumentBench.Proofs.History.Calendar

/-!
# Dates in machine words

The computation of a date from a number of seconds, with every intermediate result put into the
64-bit word that a machine has for it: no result where one does not fit.  `Date.ofSeconds?_eq` says
that all of them fit for all seconds of 64 bits, and that the date is the one that is computed
without such bounds.
-/

namespace InstrumentBench.Timestamp.Date

/-- A number in an unsigned word of 64 bits, none if it does not fit. -/
def unsigned? (number : Int) : Option Int :=
  if 0 ≤ number ∧ number < 18446744073709551616 then some number else none

/-- A number in a signed word of 64 bits, none if it does not fit. -/
def signed? (number : Int) : Option Int :=
  if -9223372036854775808 ≤ number ∧ number < 9223372036854775808 then some number else none

theorem unsigned?_fits {number : Int} (least : 0 ≤ number)
    (greatest : number < 18446744073709551616) : unsigned? number = some number :=
  if_pos ⟨least, greatest⟩

theorem signed?_fits {number : Int} (least : -9223372036854775808 ≤ number)
    (greatest : number < 9223372036854775808) : signed? number = some number :=
  if_pos ⟨least, greatest⟩

theorem unsigned?_bind {result : Type} {number : Int} (least : 0 ≤ number)
    (greatest : number < 18446744073709551616) (later : Int → Option result) :
    (unsigned? number).bind later = later number := by
  rw [unsigned?_fits least greatest, Option.bind_some]

theorem signed?_bind {result : Type} {number : Int} (least : -9223372036854775808 ≤ number)
    (greatest : number < 9223372036854775808) (later : Int → Option result) :
    (signed? number).bind later = later number := by
  rw [signed?_fits least greatest, Option.bind_some]

/-- The year of a day within a cycle of 400 years. -/
def yearOfCycle? (dayOfCycle : Int) : Option Int := do
  let withoutLeapDays ← unsigned? (dayOfCycle - dayOfCycle / 1460)
  let withCenturies ← unsigned? (withoutLeapDays + dayOfCycle / 36524)
  let ordinaryDays ← unsigned? (withCenturies - dayOfCycle / 146096)
  return ordinaryDays / 365

/-- The day of a year, from the day and the year of a cycle. -/
def dayOfYear? (dayOfCycle yearOfCycle : Int) : Option Int := do
  let ordinaryDays ← unsigned? (365 * yearOfCycle)
  let withLeapDays ← unsigned? (ordinaryDays + yearOfCycle / 4)
  let before ← unsigned? (withLeapDays - yearOfCycle / 100)
  unsigned? (dayOfCycle - before)

/-- The month of the calendar for one that is counted from March. -/
def month? (monthFromMarch : Int) : Option Int :=
  if monthFromMarch < 10 then unsigned? (monthFromMarch + 3) else unsigned? (monthFromMarch - 9)

/-- The year of the calendar in which a month of the year that starts in March lies. -/
def calendarYear? (year month : Int) : Option Int :=
  if month ≤ 2 then signed? (year + 1) else some year

/-- The date of a day of the year that starts in March. -/
def inMarchYear? (year day : Int) : Option Date := do
  let fivefold ← unsigned? (5 * day)
  let shifted ← unsigned? (fivefold + 2)
  let monthFromMarch := shifted / 153
  let scaled ← unsigned? (153 * monthFromMarch)
  let before ← unsigned? (scaled + 2)
  let dayFromZero ← unsigned? (day - before / 5)
  let dayOfMonth ← unsigned? (dayFromZero + 1)
  let month ← month? monthFromMarch
  let year ← calendarYear? year month
  return ⟨year.toNat, month.toNat, dayOfMonth.toNat⟩

/-- What is divided by the length of a cycle, so that a division toward zero gives the cycle of
days before the first of March of the year 0 too. -/
def dividend? (shifted : Int) : Option Int :=
  if 0 ≤ shifted then some shifted else signed? (shifted - 146096)

/-- The date of a number of seconds since 1970 began.  Days and years are signed, all that is
counted within a cycle is unsigned. -/
def ofSeconds? (seconds : UInt64) : Option Date := do
  let days ← signed? (seconds.toNat / 86400)
  let shifted ← signed? (days + 719468)
  let dividend ← dividend? shifted
  let cycle := dividend.tdiv 146097
  let before ← signed? (cycle * 146097)
  let passed ← signed? (shifted - before)
  let dayOfCycle ← unsigned? passed
  let yearOfCycle ← yearOfCycle? dayOfCycle
  let signedYear ← signed? yearOfCycle
  let firstYear ← signed? (cycle * 400)
  let year ← signed? (signedYear + firstYear)
  let day ← dayOfYear? dayOfCycle yearOfCycle
  inMarchYear? year day

theorem yearOfCycle?_eq {yearOfCycle day : Nat} (small : yearOfCycle < 400)
    (inside : day < marchLength yearOfCycle) :
    yearOfCycle? (cycleStart yearOfCycle + day : Nat) = some (yearOfCycle : Int) := by
  have inCycle := cycleStart_add_lt small inside
  have found := yearOfCycle_eq small inside rfl
  generalize cycleStart yearOfCycle + day = dayOfCycle at inCycle found ⊢
  simp (disch := omega) only [yearOfCycle?, Option.bind_eq_bind, unsigned?_bind]
  refine congrArg some ?_
  omega

theorem dayOfYear?_eq {yearOfCycle day : Nat} (small : yearOfCycle < 400) (short : day < 366) :
    dayOfYear? (cycleStart yearOfCycle + day : Nat) yearOfCycle = some (day : Int) := by
  have start : (cycleStart yearOfCycle : Int) =
      365 * yearOfCycle + yearOfCycle / 4 - yearOfCycle / 100 := by
    unfold cycleStart
    omega
  rw [Nat.cast_add, start]
  simp (disch := omega) only [dayOfYear?, Option.bind_eq_bind, unsigned?_bind]
  rw [add_sub_cancel_left, unsigned?_fits (by omega) (by omega)]

theorem month?_eq {month : Nat} (bound : month < 12) :
    month? month = some ((if month < 10 then month + 3 else month - 9 : Nat) : Int) := by
  interval_cases month <;> rfl

theorem calendarYear?_eq {year : Nat} (bounded : year < 4611686018427387904) (month : Nat) :
    calendarYear? year month = some ((year + if month ≤ 2 then 1 else 0 : Nat) : Int) := by
  unfold calendarYear?
  by_cases early : month ≤ 2
  · rw [if_pos (by omega), if_pos early, signed?_fits (by omega) (by omega)]
    rfl
  · rw [if_neg (by omega), if_neg early]
    rfl

theorem inMarchYear?_eq {year day : Nat} (bounded : year < 4611686018427387904)
    (short : day < 366) : inMarchYear? year day = some (inMarchYear year day) := by
  have month_lt : (5 * day + 2) / 153 < 12 := by omega
  have monthFromMarch : (5 * day + 2 : Int) / 153 = ((5 * day + 2) / 153 : Nat) := by omega
  simp (disch := omega) only [inMarchYear?, Option.bind_eq_bind, unsigned?_bind]
  rw [monthFromMarch, month?_eq month_lt, Option.bind_some,
    calendarYear?_eq bounded, Option.bind_some]
  refine congrArg some ?_
  simp only [inMarchYear, Int.toNat_natCast, mk.injEq, true_and]
  omega

/-- For all seconds of 64 bits every intermediate result fits its word, and the date is that of the
day. -/
theorem ofSeconds?_eq (seconds : UInt64) :
    ofSeconds? seconds = some (ofDays (seconds.toNat / 86400)) := by
  have fits : seconds.toNat < 18446744073709551616 := seconds.toNat_lt
  obtain ⟨year, day, inside, counted, -⟩ := exists_inMarchYear (seconds.toNat / 86400)
  rw [ofDays_eq_inMarchYear inside counted]
  obtain ⟨cycle, yearOfCycle, small, rfl⟩ :
      ∃ cycle yearOfCycle, yearOfCycle < 400 ∧ year = 400 * cycle + yearOfCycle :=
    ⟨year / 400, year % 400, by omega⟩
  have short := inside.trans_le (marchLength_bounds _).2
  rw [marchLength_cycle] at inside
  rw [marchStart_eq small] at counted
  have inCycle := cycleStart_add_lt small inside
  have shifted : (seconds.toNat / 86400 + 719468 : Int) =
      146097 * cycle + (cycleStart yearOfCycle + day : Nat) := by omega
  have dividend : dividend? (146097 * cycle + (cycleStart yearOfCycle + day : Nat)) =
      some (146097 * cycle + (cycleStart yearOfCycle + day : Nat) : Int) := if_pos (by omega)
  have cycles : (146097 * cycle + (cycleStart yearOfCycle + day : Nat) : Int).tdiv 146097 =
      cycle := by
    rw [Int.tdiv_eq_ediv_of_nonneg (by omega)]
    omega
  have passed : (146097 * cycle + (cycleStart yearOfCycle + day : Nat) - cycle * 146097 : Int) =
      (cycleStart yearOfCycle + day : Nat) := by omega
  have calendar : (yearOfCycle + cycle * 400 : Int) = (400 * cycle + yearOfCycle : Nat) := by omega
  simp only [ofSeconds?, Option.bind_eq_bind]
  rw [signed?_bind (by omega) (by omega), shifted]
  rw [signed?_bind (by omega) (by omega), dividend, Option.bind_some, cycles]
  rw [signed?_bind (by omega) (by omega), passed]
  rw [signed?_bind (by omega) (by omega)]
  rw [unsigned?_bind (by omega) (by omega),
    yearOfCycle?_eq small inside, Option.bind_some]
  rw [signed?_bind (by omega) (by omega)]
  rw [signed?_bind (by omega) (by omega)]
  rw [signed?_bind (by omega) (by omega), calendar,
    dayOfYear?_eq small short, Option.bind_some, inMarchYear?_eq (by omega) short]

end InstrumentBench.Timestamp.Date
