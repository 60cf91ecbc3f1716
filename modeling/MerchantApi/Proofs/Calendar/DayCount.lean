import MerchantApi.Proofs.Calendar
/-!
# Days counted one after another

The number of a date is found by a formula.  It is the count of the days that
have passed, year by year, month by month and day by day.
-/

namespace MerchantApi.Calendar

def daysInYear (year : Int) : Nat := if isLeap year then 366 else 365

def daysOfYears : Nat → Nat
  | 0 => 0
  | year + 1 => daysOfYears year + daysInYear year

def daysOfMonths (year : Int) : Nat → Nat
  | 0 => 0
  | 1 => 0
  | month + 2 => daysOfMonths year (month + 1) + daysInMonth year (month + 1)

def Date.dayCount (d : Date) : Nat :=
  daysOfYears d.year.toNat + daysOfMonths d.year d.month + (d.day - 1)

/-- Every fourth year has one more day, but not every hundredth, and again every
four hundredth. -/
theorem daysOfYears_eq (year : Nat) :
    daysOfYears year + (year + 99) / 100 = 365 * year + (year + 3) / 4 + (year + 399) / 400 := by
  induction year with
  | zero => rfl
  | succ year ih =>
    rw [daysOfYears, daysInYear]
    by_cases hleap : isLeap year
    · rw [if_pos hleap]
      simp only [isLeap, Bool.and_eq_true, Bool.or_eq_true, decide_eq_true_eq] at hleap
      omega
    · rw [if_neg hleap]
      simp only [isLeap, Bool.and_eq_true, Bool.or_eq_true, decide_eq_true_eq] at hleap
      omega

theorem daysOfMonths_eq (year : Int) {month : Nat} (hfirst : 1 ≤ month) (hlast : month ≤ 12) :
    daysOfMonths year month + 306 = (153 * ((month + 9) % 12) + 2) / 5 +
      if month ≤ 2 then 0 else 365 + if isLeap year then 1 else 0 := by
  interval_cases month <;> simp [daysOfMonths, daysInMonth] <;> split <;> rfl

private theorem toDays_eq_sub {d : Date} (hvalid : d.isValid = true) (hyear : 0 ≤ d.year) :
    d.toDays = d.dayCount - 719528 := by
  simp only [Date.isValid, Bool.and_eq_true, decide_eq_true_eq] at hvalid
  obtain ⟨⟨⟨hfirst, hlast⟩, hday⟩, -⟩ := hvalid
  have hyears := daysOfYears_eq d.year.toNat
  have hmonths := daysOfMonths_eq d.year hfirst hlast
  rw [Date.toDays, Date.dayCount, epochShift]
  by_cases hwinter : d.month ≤ 2
  · rw [if_pos hwinter] at hmonths
    rw [if_pos hwinter]
    omega
  · rw [if_neg hwinter] at hmonths
    rw [if_neg hwinter]
    -- From March on a leap day of the year itself has passed.
    by_cases hleap : isLeap d.year
    · rw [if_pos hleap] at hmonths
      simp only [isLeap, Bool.and_eq_true, Bool.or_eq_true, decide_eq_true_eq] at hleap
      omega
    · rw [if_neg hleap] at hmonths
      simp only [isLeap, Bool.and_eq_true, Bool.or_eq_true, decide_eq_true_eq] at hleap
      omega

def epoch : Date := ⟨1970, 1, 1⟩

theorem toDays_eq_dayCount {d : Date} (hvalid : d.isValid = true) (hyear : 0 ≤ d.year) :
    d.toDays = (d.dayCount : Int) - epoch.dayCount := by
  have hepoch : epoch.toDays = epoch.dayCount - 719528 := toDays_eq_sub rfl (by decide)
  have hzero : epoch.toDays = 0 := rfl
  rw [toDays_eq_sub hvalid hyear]
  omega

theorem toDays_range {d : Date} (hvalid : d.isValid = true)
    (hyear : 0 ≤ d.year ∧ d.year ≤ 9999) : -719529 < d.toDays ∧ d.toDays < 3000000 := by
  constructor
  · rw [toDays_eq_sub hvalid hyear.1]
    omega
  · simp only [Date.isValid, Bool.and_eq_true, decide_eq_true_eq] at hvalid
    obtain ⟨⟨⟨-, hlast⟩, -⟩, hday⟩ := hvalid
    have hlength := daysInMonth_le d.year d.month
    rw [Date.toDays, epochShift]
    split <;> omega

end MerchantApi.Calendar
