import MerchantApi.Instant
/-!
# Texts of instants

An instant is written in universal time with a date, a time and the letter
`Z`.  The fraction has as few of 0, 3, 6 and 9 digits as it needs, and a year
that does not have four digits has a sign.  Texts are read with the syntax of
RFC 3339, whose years have four digits; the extended syntax takes years with a
sign as well.
-/

namespace MerchantApi.Instant

def fixed : (width : Nat) → Nat → List Char
  | 0, _ => []
  | width + 1, n => fixed width (n / 10) ++ [Nat.digitChar (n % 10)]

def atLeastFour (n : Nat) : List Char :=
  let digits := Nat.toDigits 10 n
  List.replicate (4 - digits.length) '0' ++ digits

def yearChars (year : Int) : List Char :=
  if 0 ≤ year ∧ year ≤ 9999 then atLeastFour year.toNat
  else (if year < 0 then '-' else '+') :: atLeastFour year.natAbs

def fractionChars (nanos : Nat) : List Char :=
  if nanos = 0 then []
  else if nanos % 1000000 = 0 then '.' :: fixed 3 (nanos / 1000000)
  else if nanos % 1000 = 0 then '.' :: fixed 6 (nanos / 1000)
  else '.' :: fixed 9 nanos

def chars (t : Instant) : List Char :=
  let s := t.secondOfDay
  let leap := t.nanos / 1000000000
  yearChars t.date.year ++ '-' :: fixed 2 t.date.month ++ '-' :: fixed 2 t.date.day ++
    'T' :: fixed 2 (s / 3600) ++ ':' :: fixed 2 (s / 60 % 60) ++
    ':' :: fixed 2 (s % 60 + leap) ++ fractionChars (t.nanos % 1000000000) ++ ['Z']

def text (t : Instant) : String := String.ofList t.chars

def expect (accept : Char → Bool) : List Char → Option (List Char)
  | [] => none
  | c :: cs => if accept c then some cs else none

/-- A number of exactly `width` decimal digits, after a number read before. -/
def digits (value : Nat) : (width : Nat) → List Char → Option (Nat × List Char)
  | 0, cs => some (value, cs)
  | _ + 1, [] => none
  | width + 1, c :: cs =>
    if c.isDigit then digits (value * 10 + (c.toNat - 48)) width cs else none

/-- The years that are read: with four digits only, or with a sign too. -/
inductive Syntax where
  | standard
  | extended
deriving DecidableEq

def readYear (form : Syntax) (cs : List Char) : Option (Int × List Char) :=
  match form, cs with
  | .extended, '+' :: rest =>
    (digits 0 (rest.takeWhile Char.isDigit).length rest).map fun (n, cs) => ((n : Int), cs)
  | .extended, '-' :: rest =>
    (digits 0 (rest.takeWhile Char.isDigit).length rest).map fun (n, cs) => (-(n : Int), cs)
  | _, cs => (digits 0 4 cs).map fun (n, cs) => ((n : Int), cs)

/-- The fraction of a second, in nanoseconds; digits after the ninth are dropped. -/
def readFraction (cs : List Char) : Option (Nat × List Char) :=
  match cs with
  | '.' :: rest =>
    let run := rest.takeWhile Char.isDigit
    if run.isEmpty then none
    else
      let kept := run.take 9
      some (Nat.ofDigitChars 10 kept 0 * Nat.pow 10 (9 - kept.length), rest.dropWhile Char.isDigit)
  | cs => some (0, cs)

def readOffset (cs : List Char) : Option (Int × List Char) :=
  match cs with
  | [] => none
  | c :: rest =>
    if c = 'Z' ∨ c = 'z' then some (0, rest)
    else if c = '+' ∨ c = '-' ∨ c.toNat = 0x2212 then do
      let (hours, rest) ← digits 0 2 rest
      let rest ← expect (· = ':') rest
      let (minutes, rest) ← digits 0 2 rest
      let offset : Int := hours * 3600 + minutes * 60
      if hours ≤ 23 ∧ minutes ≤ 59 then some (if c = '+' then offset else -offset, rest) else none
    else none

/-- The moment of a date and a time at an offset.  The second 60 is the leap
second after the second 59. -/
def assemble (date : Calendar.Date) (hour minute second nanos : Nat) (offset : Int) :
    Option Instant :=
  if date.isValid && hour ≤ 23 && minute ≤ 59 && second ≤ 60 then
    let leap := second / 60
    let atOffset : Int := date.toDays * 86400 + (hour * 3600 + minute * 60 + (second - leap) : Nat)
    ofSeconds? (atOffset - offset) (nanos + leap * 1000000000)
  else none

def read (form : Syntax) (cs : List Char) : Option Instant := do
  let (year, cs) ← readYear form cs
  let cs ← expect (· = '-') cs
  let (month, cs) ← digits 0 2 cs
  let cs ← expect (· = '-') cs
  let (day, cs) ← digits 0 2 cs
  let cs ← expect (fun c => c = 'T' || c = 't' || c = ' ') cs
  let (hour, cs) ← digits 0 2 cs
  let cs ← expect (· = ':') cs
  let (minute, cs) ← digits 0 2 cs
  let cs ← expect (· = ':') cs
  let (second, cs) ← digits 0 2 cs
  let (nanos, cs) ← readFraction cs
  let (offset, cs) ← readOffset cs
  if cs.isEmpty then assemble ⟨year, month, day⟩ hour minute second nanos offset else none

def parse (form : Syntax) (s : String) : Option Instant := read form s.toList

end MerchantApi.Instant
