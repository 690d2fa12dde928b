import InstrumentBench.History.Timestamp
import Mathlib.Algebra.Order.Group.Nat
import Mathlib.Data.Nat.Init
import Mathlib.Logic.Function.Iterate
import Mathlib.Order.Monotone.Basic
import Mathlib.Tactic.IntervalCases

/-!
# The calendar behind timestamps

The Gregorian calendar, told by what the day after a date is: months have their usual lengths,
and every fourth year is a leap year, but of the years that close a century only every fourth.
The date computed for a day is the one reached by counting that many days from the first of
January 1970 (`Date.ofDays_eq_iterate`).

Between the two stands a third way to name a day: by the year that starts in March and the day of
that year, where the leap day comes last and so moves no other day.
-/

namespace InstrumentBench.Timestamp.Date

/-! ## The calendar -/

/-- A year with a leap day. -/
def IsLeap (year : Nat) : Prop :=
  year % 4 = 0 ∧ (year % 100 ≠ 0 ∨ year % 400 = 0)

instance (year : Nat) : Decidable (IsLeap year) :=
  inferInstanceAs (Decidable (_ ∧ _))

/-- The number of days of a month. -/
def monthLength (year : Nat) : (month : Nat) → Nat
  | 2 => if IsLeap year then 29 else 28
  | 4 | 6 | 9 | 11 => 30
  | _ => 31

/-- The first of January 1970. -/
def epoch : Date := ⟨1970, 1, 1⟩

/-- The day after a date. -/
def next (date : Date) : Date :=
  if date.day < monthLength date.year date.month then { date with day := date.day + 1 }
  else if date.month < 12 then ⟨date.year, date.month + 1, 1⟩
  else ⟨date.year + 1, 1, 1⟩

/-- A date that stands in the calendar. -/
structure Valid (date : Date) : Prop where
  month_pos : 1 ≤ date.month
  month_le : date.month ≤ 12
  day_pos : 1 ≤ date.day
  day_le : date.day ≤ monthLength date.year date.month

theorem monthLength_pos (year month : Nat) : 1 ≤ monthLength year month := by
  unfold monthLength
  split <;> try split
  all_goals omega

theorem monthLength_le (year month : Nat) : monthLength year month ≤ 31 := by
  unfold monthLength
  split <;> try split
  all_goals omega

theorem valid_epoch : epoch.Valid := by
  constructor <;> decide

theorem Valid.next {date : Date} (valid : date.Valid) : date.next.Valid := by
  obtain ⟨month_pos, month_le, day_pos, day_le⟩ := valid
  unfold Date.next
  split
  next inMonth => exact ⟨month_pos, month_le, Nat.le_add_left 1 _, inMonth⟩
  split
  next inYear => exact ⟨Nat.le_add_left 1 _, inYear, Nat.le_refl 1, monthLength_pos _ _⟩
  next => exact ⟨Nat.le_refl 1, Nat.le_add_left 1 11, Nat.le_refl 1, monthLength_pos _ _⟩

theorem valid_iterate (days : Nat) : (Date.next^[days] epoch).Valid := by
  induction days with
  | zero => exact valid_epoch
  | succ days ih =>
    rw [Function.iterate_succ_apply']
    exact ih.next

/-- A number that grows from each date to the next; it leaves gaps, as if every month had 31
days. -/
def rank (date : Date) : Nat :=
  (12 * date.year + date.month) * 32 + date.day

theorem Valid.rank_lt {date : Date} (valid : date.Valid) : date.rank < date.next.rank := by
  have short := valid.day_le.trans (monthLength_le _ _)
  have := valid.month_le
  unfold Date.next
  split
  · simp only [rank]
    omega
  split <;> simp only [rank] <;> omega

theorem rank_strictMono : StrictMono fun days => (Date.next^[days] epoch).rank := by
  apply strictMono_nat_of_lt_succ
  intro days
  rw [Function.iterate_succ_apply']
  exact (valid_iterate days).rank_lt

/-- Counting on never comes back to a date. -/
theorem iterate_injective : Function.Injective fun days => Date.next^[days] epoch :=
  Function.Injective.of_comp (f := rank) rank_strictMono.injective

/-! ## Years that start in March -/

/-- A day of a month, both counted from 0, of the year that starts in March. -/
def inMonth (year month day : Nat) : Date :=
  { year := if month < 10 then year else year + 1
    month := if month < 10 then month + 3 else month - 9
    day := day + 1 }

/-- The days from the first of March to the first of a month that is counted from March. -/
def monthStart (month : Nat) : Nat :=
  (153 * month + 2) / 5

/-- The length of a month that is counted from March; February comes last. -/
def lengthFromMarch (year month : Nat) : Nat :=
  if month < 11 then monthStart (month + 1) - monthStart month
  else if IsLeap (year + 1) then 29 else 28

theorem monthLength_inMonth {month : Nat} (bound : month ≤ 11) (year day : Nat) :
    monthLength (inMonth year month day).year (inMonth year month day).month =
      lengthFromMarch year month := by
  interval_cases month <;> rfl

theorem next_inMonth {year month day : Nat} (bound : month ≤ 11)
    (inside : day + 1 < lengthFromMarch year month) :
    (inMonth year month day).next = inMonth year month (day + 1) := by
  rw [next, monthLength_inMonth bound]
  exact if_pos inside

/-- The last day of a month is followed by the first of the next one, in the same year unless the
month is February. -/
theorem next_inMonth_last {year month day : Nat} (bound : month ≤ 11)
    (last : day + 1 = lengthFromMarch year month) :
    (inMonth year month day).next =
      if month < 11 then inMonth year (month + 1) 0 else inMonth (year + 1) 0 0 := by
  have ended : ¬ (inMonth year month day).day < lengthFromMarch year month := last.not_lt
  rw [next, monthLength_inMonth bound, if_neg ended]
  interval_cases month <;> rfl

/-- The date of a day, counted from 0, of the year that starts in March. -/
def inMarchYear (year day : Nat) : Date :=
  let monthFromMarch := (5 * day + 2) / 153
  let month := if monthFromMarch < 10 then monthFromMarch + 3 else monthFromMarch - 9
  { year := year + (if month ≤ 2 then 1 else 0)
    month := month
    day := day - (153 * monthFromMarch + 2) / 5 + 1 }

theorem inMarchYear_eq {month day : Nat} (bound : month ≤ 11) (started : monthStart month ≤ day)
    (going : day < monthStart (month + 1)) (year : Nat) :
    inMarchYear year day = inMonth year month (day - monthStart month) := by
  have found : (5 * day + 2) / 153 = month := by
    unfold monthStart at started going
    omega
  unfold inMarchYear
  rw [found]
  interval_cases month <;> rfl

/-- The length of the year that starts in March: it ends with February. -/
def marchLength (year : Nat) : Nat :=
  monthStart 11 + lengthFromMarch year 11

theorem marchLength_eq (year : Nat) :
    marchLength year = if IsLeap (year + 1) then 366 else 365 := by
  by_cases leap : IsLeap (year + 1)
  · rw [marchLength, lengthFromMarch, if_pos leap, if_pos leap]
    rfl
  · rw [marchLength, lengthFromMarch, if_neg leap, if_neg leap]
    rfl

theorem marchLength_bounds (year : Nat) : 365 ≤ marchLength year ∧ marchLength year ≤ 366 := by
  rw [marchLength_eq]
  split <;> decide

/-- Every day of the year that starts in March is in a month. -/
theorem exists_month {year day : Nat} (inside : day < marchLength year) :
    ∃ month ≤ 11, monthStart month ≤ day ∧ day < monthStart (month + 1) ∧
      day - monthStart month < lengthFromMarch year month := by
  have short := inside.trans_le (marchLength_bounds year).2
  have started : monthStart ((5 * day + 2) / 153) ≤ day := by
    unfold monthStart
    omega
  have going : day < monthStart ((5 * day + 2) / 153 + 1) := by
    unfold monthStart
    omega
  refine ⟨_, by omega, started, going, ?_⟩
  by_cases early : (5 * day + 2) / 153 < 11
  · rw [lengthFromMarch, if_pos early]
    omega
  · have last : (5 * day + 2) / 153 = 11 := by omega
    rw [last] at started ⊢
    rw [marchLength] at inside
    omega

/-- A month ends before the year does, or with it. -/
theorem monthStart_add_lengthFromMarch {month : Nat} (bound : month ≤ 11) (year : Nat) :
    if month < 11 then
      monthStart month + lengthFromMarch year month = monthStart (month + 1) ∧
        monthStart (month + 1) < marchLength year
    else monthStart month + lengthFromMarch year month = marchLength year := by
  have atLeast := (marchLength_bounds year).1
  split
  next early =>
    rw [lengthFromMarch, if_pos early]
    unfold monthStart
    omega
  next late =>
    obtain rfl : month = 11 := by omega
    rfl

/-- Within the year that starts in March the days follow one another as in the calendar, and its
last day is followed by the first day of the next one. -/
theorem next_inMarchYear {year day : Nat} (inside : day < marchLength year) :
    (inMarchYear year day).next =
      if day + 1 < marchLength year then inMarchYear year (day + 1)
      else inMarchYear (year + 1) 0 := by
  obtain ⟨month, bound, started, going, short⟩ := exists_month inside
  have atMost := (marchLength_bounds year).2
  have ends := monthStart_add_lengthFromMarch bound year
  rw [inMarchYear_eq bound started going]
  by_cases last : day - monthStart month + 1 = lengthFromMarch year month
  · rw [next_inMonth_last bound last]
    by_cases early : month < 11
    · rw [if_pos early] at ends
      have later : day + 1 = monthStart (month + 1) := by omega
      have longer : day + 1 < monthStart (month + 2) := by
        unfold monthStart at later ⊢
        omega
      rw [if_pos early, if_pos (by omega), inMarchYear_eq early later.ge longer, later,
        Nat.sub_self]
    · rw [if_neg early] at ends
      rw [if_neg early, if_neg (by omega)]
      rfl
  · have further : day - monthStart month + 1 < lengthFromMarch year month := by omega
    have inYear : day + 1 < marchLength year ∧ day + 1 < monthStart (month + 1) := by
      split at ends
      · omega
      · have beyond : monthStart (11 + 1) = 367 := rfl
        obtain rfl : month = 11 := by omega
        omega
    rw [next_inMonth bound further, if_pos inYear.1,
      inMarchYear_eq bound (Nat.le_succ_of_le started) inYear.2, Nat.succ_sub started]

/-! ## Counting days -/

/-- The days from the first of March of the year 0 to that of another year. -/
def marchStart (year : Nat) : Nat :=
  365 * year + year / 4 - year / 100 + year / 400

theorem marchStart_succ (year : Nat) :
    marchStart (year + 1) = marchStart year + marchLength year := by
  rw [marchLength_eq]
  by_cases leap : IsLeap (year + 1)
  · rw [if_pos leap]
    unfold IsLeap at leap
    simp only [marchStart, Nat.succ_div, Nat.dvd_iff_mod_eq_zero]
    split_ifs <;> omega
  · rw [if_neg leap]
    unfold IsLeap at leap
    simp only [marchStart, Nat.succ_div, Nat.dvd_iff_mod_eq_zero]
    split_ifs <;> omega

/-- The calendar reaches each day as a day of a year that starts in March. -/
theorem exists_inMarchYear (days : Nat) :
    ∃ year day, day < marchLength year ∧ days + 719468 = marchStart year + day ∧
      Date.next^[days] epoch = inMarchYear year day := by
  induction days with
  | zero => exact ⟨1969, 306, by decide, by decide, by decide⟩
  | succ days ih =>
    obtain ⟨year, day, inside, counted, reached⟩ := ih
    rw [Function.iterate_succ_apply', reached, next_inMarchYear inside]
    by_cases inYear : day + 1 < marchLength year
    · exact ⟨year, day + 1, inYear, by omega, if_pos inYear⟩
    · have opens : 0 < marchLength (year + 1) := by
        have := (marchLength_bounds (year + 1)).1
        omega
      have counted : days + 1 + 719468 = marchStart (year + 1) + 0 := by
        rw [marchStart_succ]
        omega
      exact ⟨year + 1, 0, opens, counted, if_neg inYear⟩

/-- The days of a cycle of 400 years before one of its years. -/
def cycleStart (yearOfCycle : Nat) : Nat :=
  365 * yearOfCycle + yearOfCycle / 4 - yearOfCycle / 100

theorem marchStart_eq {yearOfCycle : Nat} (small : yearOfCycle < 400) (cycle : Nat) :
    marchStart (400 * cycle + yearOfCycle) = 146097 * cycle + cycleStart yearOfCycle := by
  unfold marchStart cycleStart
  omega

/-- The year of a day within a cycle is found by taking the leap days before it away.  A cycle
consists of centuries of 36524 days, a century of groups of four years with 1461 days, and one
day more ends the cycle. -/
theorem yearOfCycle_eq {yearOfCycle day dayOfCycle : Nat} (small : yearOfCycle < 400)
    (inside : day < marchLength yearOfCycle) (placed : dayOfCycle = cycleStart yearOfCycle + day) :
    (dayOfCycle - dayOfCycle / 1460 + dayOfCycle / 36524 - dayOfCycle / 146096) / 365 =
      yearOfCycle := by
  obtain ⟨century, group, year, century_lt, group_lt, year_lt, rfl⟩ :
      ∃ century group year, century < 4 ∧ group < 25 ∧ year < 4 ∧
        yearOfCycle = 100 * century + 4 * group + year :=
    ⟨yearOfCycle / 100, yearOfCycle % 100 / 4, yearOfCycle % 4, by omega⟩
  have short := inside.trans_le (marchLength_bounds _).2
  have leapDay : day = 365 → year = 3 ∧ (group < 24 ∨ century = 3) := by
    intro last
    have leap : IsLeap (100 * century + 4 * group + year + 1) := by
      by_contra ordinary
      rw [marchLength_eq, if_neg ordinary] at inside
      omega
    unfold IsLeap at leap
    omega
  have placed : dayOfCycle = 36524 * century + 1461 * group + 365 * year + day := by
    unfold cycleStart at placed
    omega
  clear inside small
  by_cases last : dayOfCycle = 146096
  · omega
  · have passed : dayOfCycle / 36524 = century := by omega
    have going : dayOfCycle / 146096 = 0 := by omega
    rw [passed, going]
    omega

theorem cycleStart_add_lt {yearOfCycle day : Nat} (small : yearOfCycle < 400)
    (inside : day < marchLength yearOfCycle) : cycleStart yearOfCycle + day < 146097 := by
  have start := marchStart_eq small 0
  have stop : marchStart (yearOfCycle + 1) ≤ 146097 := by
    unfold marchStart
    omega
  rw [marchStart_succ] at stop
  simp only [Nat.mul_zero, Nat.zero_add] at start
  omega

theorem marchLength_cycle (cycle yearOfCycle : Nat) :
    marchLength (400 * cycle + yearOfCycle) = marchLength yearOfCycle := by
  have repeated : IsLeap (400 * cycle + yearOfCycle + 1) ↔ IsLeap (yearOfCycle + 1) := by
    unfold IsLeap
    omega
  simp only [marchLength_eq, repeated]

/-- The date computed for a day is that of the day in the year that starts in March. -/
theorem ofDays_eq_inMarchYear {days year day : Nat} (inside : day < marchLength year)
    (counted : days + 719468 = marchStart year + day) : ofDays days = inMarchYear year day := by
  obtain ⟨cycle, yearOfCycle, small, rfl⟩ :
      ∃ cycle yearOfCycle, yearOfCycle < 400 ∧ year = 400 * cycle + yearOfCycle :=
    ⟨year / 400, year % 400, by omega⟩
  rw [marchLength_cycle] at inside
  rw [marchStart_eq small] at counted
  have inCycle := cycleStart_add_lt small inside
  have cycles : (days + 719468) / 146097 = cycle := by omega
  have dayOfCycle : (days + 719468) % 146097 = cycleStart yearOfCycle + day := by omega
  have dayOfYear : cycleStart yearOfCycle + day -
      (365 * yearOfCycle + yearOfCycle / 4 - yearOfCycle / 100) = day :=
    Nat.add_sub_cancel_left _ day
  unfold ofDays
  simp only [cycles, dayOfCycle, yearOfCycle_eq small inside rfl, dayOfYear]
  rw [Nat.add_comm yearOfCycle]
  rfl

/-- The date of a day is the one that is reached by counting the days from the first of January
1970. -/
theorem ofDays_eq_iterate (days : Nat) : ofDays days = Date.next^[days] epoch := by
  obtain ⟨year, day, inside, counted, reached⟩ := exists_inMarchYear days
  rw [reached, ofDays_eq_inMarchYear inside counted]

end InstrumentBench.Timestamp.Date
