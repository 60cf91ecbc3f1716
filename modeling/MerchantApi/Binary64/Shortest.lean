import MerchantApi.Binary64
/-!
# Shortest decimal text of a number

A number is written with the fewest decimal digits that read back as the same
number; of those, with the ones nearest to it.  The text is positional from
`0.00001` to below `10 ^ 16` and has an exponent elsewhere.
-/

namespace MerchantApi.Binary64

/-- The numbers that round to one number of the format, with it in the middle:
`low`, `value` and `high` over one denominator. -/
structure Neighbourhood where
  low : Nat
  value : Nat
  high : Nat
  den : Nat
  closed : Bool

/-- The reals that round to a number; both ends belong to it when its
significand is even. -/
def neighbourhood (x : Binary64) : Neighbourhood :=
  let m := x.significand
  let below := if m = binade ∧ -1074 < x.exponent then 1 else 2
  let scale := if 0 ≤ x.exponent then Nat.pow 2 x.exponent.toNat else 1
  let den := if 0 ≤ x.exponent then 4 else 4 * Nat.pow 2 (-x.exponent).toNat
  { low := (4 * m - below) * scale
    value := 4 * m * scale
    high := (4 * m + 2) * scale
    den := den
    closed := m % 2 = 0 }

def Neighbourhood.holds (n : Neighbourhood) (digits num den : Nat) : Bool :=
  let point := digits * num * n.den
  if n.closed then n.low * den ≤ point && point ≤ n.high * den
  else n.low * den < point && point < n.high * den

def leadingTen (num den : Nat) : Int :=
  if den ≤ num then ((Nat.toDigits 10 (num / den)).length : Int) - 1
  else
    let guess := (Nat.toDigits 10 (den / num)).length
    if den ≤ num * Nat.pow 10 (guess - 1) then -((guess : Int) - 1) else -(guess : Int)

/-- The point nearest to the number on the grid of a power of ten, if it reads
back as the number; of two points equally near, the even one. -/
def onGrid (n : Neighbourhood) (power : Int) : Option Nat :=
  let num := if 0 ≤ power then Nat.pow 10 power.toNat else 1
  let den := if 0 ≤ power then 1 else Nat.pow 10 (-power).toNat
  let floor := n.value * den / (num * n.den)
  let rest := n.value * den % (num * n.den)
  let nearer :=
    if 2 * rest < num * n.den ∨ (2 * rest = num * n.den ∧ floor % 2 = 0) then floor
    else floor + 1
  let other := if nearer = floor then floor + 1 else floor
  if n.holds nearer num den then some nearer
  else if n.holds other num den then some other
  else none

/-- The first grid, from the coarsest, that has a point reading back as the
number: the point and the power of ten it counts. -/
def search (n : Neighbourhood) (lead : Int) : (tries : Nat) → Nat × Int
  | 0 => (n.value / n.den, 0)
  | tries + 1 =>
    let power := lead - (17 - (tries + 1) : Int)
    match onGrid n power with
    | some digits => (digits, power)
    | none => search n lead tries

def shortest (x : Binary64) : Nat × Int :=
  let n := x.neighbourhood
  search n (leadingTen n.value n.den) 17

def stripZeros (digits : List Char) : List Char × Nat :=
  let kept := (digits.reverse.dropWhile (· = '0')).reverse
  (kept, digits.length - kept.length)

def positional (digits : List Char) (whole : Int) : List Char :=
  if whole ≤ 0 then
    '0' :: '.' :: (List.replicate (-whole).toNat '0' ++ digits)
  else
    let n := whole.toNat
    if digits.length ≤ n then digits ++ List.replicate (n - digits.length) '0' ++ ['.', '0']
    else digits.take n ++ '.' :: digits.drop n

def scientific (digits : List Char) (exponent : Int) : List Char :=
  let head := match digits with
    | [] => ['0']
    | [d] => [d]
    | d :: rest => d :: '.' :: rest
  let sign := if exponent < 0 then '-' else '+'
  head ++ 'e' :: sign :: Nat.toDigits 10 exponent.natAbs

def chars (x : Binary64) : List Char :=
  let body :=
    if x.isZero then ['0', '.', '0']
    else
      let (value, power) := x.shortest
      let (digits, zeros) := stripZeros (Nat.toDigits 10 value)
      let lead : Int := power + zeros + digits.length - 1
      if -5 ≤ lead ∧ lead < 16 then positional digits (lead + 1) else scientific digits lead
  if x.negative then '-' :: body else body

def text (x : Binary64) : String := String.ofList x.chars

/-- The text of a number that never has an exponent, and no point behind an
integer. -/
def plainText (x : Binary64) : String :=
  let (value, power) := if x.isZero then (0, 0) else x.shortest
  let digits := Nat.toDigits 10 value
  let whole : Int := power + digits.length
  let body :=
    if 0 ≤ power then digits ++ List.replicate power.toNat '0'
    else
      let (kept, _) := stripZeros digits
      if (kept.length : Int) ≤ whole then digits.take whole.toNat else positional kept whole
  String.ofList (if x.negative then '-' :: body else body)

end MerchantApi.Binary64
