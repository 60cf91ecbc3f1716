import MerchantApi.Calendar
import Mathlib.Tactic.IntervalCases
/-!
# Dates and their numbers

The date of a number exists, and it is numbered by that number.  Both facts
are taken apart along the cycle of 400 years: first the year inside a cycle,
then the month inside a year.
-/

namespace MerchantApi.Calendar

/-! ## Years of a cycle -/

/-- A day of a cycle by its century, its four years in the century, its year
in these and its day in that year.  The day 365 is a leap day, which the last
year of a century lacks unless the century is the last one. -/
theorem yearOfCycle_eq {n : Nat} (hn : n < 146097) :
    ∃ century four year day : Nat,
      yearOfCycle n = (100 * century + 4 * four + year, day) ∧
        n = 36524 * century + 1461 * four + 365 * year + day ∧
        century ≤ 3 ∧ four ≤ 24 ∧ year ≤ 3 ∧ day ≤ 365 ∧
        (day = 365 → year = 3 ∧ (four = 24 → century = 3)) := by
  obtain ⟨century, hcentury⟩ : ∃ c, c = min (n / 36524) 3 := ⟨_, rfl⟩
  obtain ⟨rest, hrest⟩ : ∃ r, r = n - 36524 * century := ⟨_, rfl⟩
  obtain ⟨four, hfour⟩ : ∃ q, q = rest / 1461 := ⟨_, rfl⟩
  obtain ⟨inFour, hinFour⟩ : ∃ r, r = rest - 1461 * four := ⟨_, rfl⟩
  obtain ⟨year, hyear⟩ : ∃ y, y = min (inFour / 365) 3 := ⟨_, rfl⟩
  refine ⟨century, four, year, inFour - 365 * year, ?_, ?_⟩
  · simp only [yearOfCycle, ← hcentury, ← hrest, ← hfour, ← hinFour, ← hyear]
  · have hlast : rest ≤ 36524 ∧ (rest = 36524 → century = 3) := by omega
    have hfull : inFour ≤ 1460 ∧ (four = 24 → inFour = 1460 → century = 3) := by omega
    omega

/-! ## Months of a year -/

/-- The number of days before a month, counted from March. -/
def daysBefore (month : Nat) : Nat := (153 * month + 2) / 5

private theorem daysBefore_le {day : Nat} (hday : day ≤ 365) :
    (5 * day + 2) / 153 ≤ 11 ∧ daysBefore ((5 * day + 2) / 153) ≤ day ∧
      day < daysBefore ((5 * day + 2) / 153 + 1) := by
  simp only [daysBefore]
  omega

theorem daysInMonth_le (year : Int) (month : Nat) : daysInMonth year month ≤ 31 := by
  rw [daysInMonth]
  split
  · split <;> omega
  · split <;> omega

private theorem daysInMonth_eq (year : Int) {month : Nat} (hmonth : month ≤ 10) :
    daysInMonth (year + if month < 10 then 0 else 1)
        (if month < 10 then month + 3 else month - 9) =
      daysBefore (month + 1) - daysBefore month := by
  interval_cases month <;> rfl

/-- The last February of four years has a leap day, unless it ends a century
that is not the last one of its cycle. -/
theorem isLeap_of_century (cycle : Int) {century four : Nat} (hfour : four ≤ 24)
    (hlast : four = 24 → century = 3) :
    isLeap (cycle * 400 + ((100 * century + 4 * four + 3 : Nat) : Int) + 1) = true := by
  simp only [isLeap, Bool.and_eq_true, Bool.or_eq_true, decide_eq_true_eq]
  omega

/-! ## Dates -/

theorem ofDays_eq (n : Int) :
    ∃ (cycle : Int) (century four year day month : Nat),
      Date.ofDays n =
          ⟨cycle * 400 + ((100 * century + 4 * four + year : Nat) : Int) +
              (if month < 10 then 0 else 1),
            if month < 10 then month + 3 else month - 9,
            day - daysBefore month + 1⟩ ∧
        n + epochShift =
          146097 * cycle + (36524 * century + 1461 * four + 365 * year + day : Nat) ∧
        century ≤ 3 ∧ four ≤ 24 ∧ year ≤ 3 ∧
        (day = 365 → year = 3 ∧ (four = 24 → century = 3)) ∧ day ≤ 365 ∧
        month ≤ 11 ∧ daysBefore month ≤ day ∧ day < daysBefore (month + 1) := by
  have hrange : ((n + epochShift) % 146097).toNat < 146097 := by omega
  obtain ⟨century, four, year, day, hparts, hday, hcentury, hfour, hyear, hle, hleap⟩ :=
    yearOfCycle_eq hrange
  obtain ⟨hmonth, hstart, hnext⟩ := daysBefore_le hle
  refine ⟨(n + epochShift) / 146097, century, four, year, day, (5 * day + 2) / 153, ?_, ?_,
    hcentury, hfour, hyear, hleap, hle, hmonth, hstart, hnext⟩
  · simp only [Date.ofDays, hparts, daysBefore]
  · omega

theorem toDays_ofDays (n : Int) : (Date.ofDays n).toDays = n := by
  obtain ⟨cycle, century, four, year, day, month, hdate, hn, hcentury, hfour, hyear, -, -,
    hmonth, hstart, -⟩ := ofDays_eq n
  rw [hdate]
  simp only [Date.toDays]
  have hmarch : ((if month < 10 then month + 3 else month - 9) + 9) % 12 = month := by
    split <;> omega
  rw [hmarch]
  change _ + ((daysBefore month : Nat) : Int) + _ - 1 - epochShift = n
  by_cases hspring : month < 10
  · simp only [hspring, if_true]
    rw [if_neg (by omega)]
    omega
  · simp only [hspring, if_false]
    rw [if_pos (by omega)]
    omega

theorem isValid_ofDays (n : Int) : (Date.ofDays n).isValid = true := by
  obtain ⟨cycle, century, four, year, day, month, hdate, -, hcentury, hfour, hyear, hleap, hle,
    hmonth, hstart, hnext⟩ := ofDays_eq n
  rw [hdate]
  simp only [Date.isValid, Bool.and_eq_true, decide_eq_true_eq]
  refine ⟨⟨⟨by split <;> omega, by split <;> omega⟩, by omega⟩, ?_⟩
  by_cases hfebruary : month ≤ 10
  · rw [daysInMonth_eq _ hfebruary]
    omega
  · obtain rfl : month = 11 := by omega
    have hfirst : daysBefore 11 = 337 := rfl
    simp only [reduceIte, show ¬(11 < 10) by decide, show 11 - 9 = 2 by rfl,
      daysInMonth]
    by_cases hday : day = 365
    · obtain ⟨rfl, hlast⟩ := hleap hday
      rw [isLeap_of_century cycle hfour hlast, if_pos rfl]
      omega
    · split <;> omega

end MerchantApi.Calendar
