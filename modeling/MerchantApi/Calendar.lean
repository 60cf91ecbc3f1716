/-!
# Days of the Gregorian calendar

Days are numbered from the first of January 1970, in both directions without a
limit.  Years are counted from March inside this module, so that a leap day is
the last day of its year, its four years, its century and its cycle of 400
years.
-/

namespace MerchantApi.Calendar

structure Date where
  year : Int
  month : Nat
  day : Nat
deriving DecidableEq

def isLeap (year : Int) : Bool :=
  year % 4 = 0 && (year % 100 ≠ 0 || year % 400 = 0)

def daysInMonth (year : Int) (month : Nat) : Nat :=
  if month = 2 then (if isLeap year then 29 else 28)
  else if month = 4 ∨ month = 6 ∨ month = 9 ∨ month = 11 then 30
  else 31

def Date.isValid (d : Date) : Bool :=
  1 ≤ d.month && d.month ≤ 12 && 1 ≤ d.day && d.day ≤ daysInMonth d.year d.month

/-- The number of the first of March of the year zero, negated. -/
def epochShift : Int := 719468

def Date.toDays (d : Date) : Int :=
  let year := if d.month ≤ 2 then d.year - 1 else d.year
  let month := (d.month + 9) % 12
  365 * year + year / 4 - year / 100 + year / 400 + ((153 * month + 2) / 5 : Nat) + d.day - 1
    - epochShift

/-- The year, from zero to 399, and the day in it of a day of a cycle. -/
def yearOfCycle (day : Nat) : Nat × Nat :=
  let century := min (day / 36524) 3
  let rest := day - 36524 * century
  let four := rest / 1461
  let rest := rest - 1461 * four
  let year := min (rest / 365) 3
  (100 * century + 4 * four + year, rest - 365 * year)

def Date.ofDays (n : Int) : Date :=
  let cycle := (n + epochShift) / 146097
  let (year, day) := yearOfCycle ((n + epochShift) % 146097).toNat
  let month := (5 * day + 2) / 153
  { year := cycle * 400 + year + (if month < 10 then 0 else 1)
    month := if month < 10 then month + 3 else month - 9
    day := day - (153 * month + 2) / 5 + 1 }

end MerchantApi.Calendar
