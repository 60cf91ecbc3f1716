/-!
# Finite double precision numbers

A finite number in the 64 bit binary format, as a sign and a magnitude.  The
magnitude counts the numbers of the format from zero up, so it is the bit
pattern without the sign bit.  Arithmetic is on exact ratios of natural
numbers, rounded once to the nearest number of the format, a half to even.
-/

namespace MerchantApi

/-- A finite number of the format; zero has both signs. -/
structure Binary64 where
  negative : Bool
  magnitude : Nat
  finite : magnitude < 0x7FF0000000000000
deriving DecidableEq

namespace Binary64

/-- How many numbers of the format lie between a power of two and the next one. -/
def binade : Nat := 0x10000000000000

def zero (negative : Bool) : Binary64 := ⟨negative, 0, by decide⟩

/-- The value is `significand * 2 ^ exponent`, up to its sign. -/
def significand (x : Binary64) : Nat :=
  if x.magnitude < binade then x.magnitude else binade + x.magnitude % binade

def exponent (x : Binary64) : Int :=
  (max (x.magnitude / binade) 1 : Nat) - 1075

def isZero (x : Binary64) : Bool := x.magnitude = 0

def roundDiv (num den : Nat) : Nat :=
  let q := num / den
  let r := num % den
  if 2 * r < den ∨ (2 * r = den ∧ q % 2 = 0) then q else q + 1

def leading (num den : Nat) : Int :=
  let guess : Int := (num.log2 : Int) - den.log2
  let reached :=
    if 0 ≤ guess then den * Nat.pow 2 guess.toNat ≤ num
    else den ≤ num * Nat.pow 2 (-guess).toNat
  if reached then guess else guess - 1

def ofRatio (negative : Bool) (num den : Nat) : Option Binary64 :=
  if num = 0 then some (zero negative)
  else
    let q := max (leading num den - 52) (-1074)
    let units :=
      if 0 ≤ q then roundDiv num (den * Nat.pow 2 q.toNat)
      else roundDiv (num * Nat.pow 2 (-q).toNat) den
    let magnitude := (q + 1074).toNat * binade + units
    if h : magnitude < 0x7FF0000000000000 then some ⟨negative, magnitude, h⟩ else none

def ratio (x : Binary64) : Nat × Nat :=
  if 0 ≤ x.exponent then (x.significand * Nat.pow 2 x.exponent.toNat, 1)
  else (x.significand, Nat.pow 2 (-x.exponent).toNat)

def mul (x y : Binary64) : Option Binary64 :=
  let (a, b) := x.ratio
  let (c, d) := y.ratio
  ofRatio (x.negative != y.negative) (a * c) (b * d)

def div (x y : Binary64) : Option Binary64 :=
  if y.isZero then none
  else
    let (a, b) := x.ratio
    let (c, d) := y.ratio
    ofRatio (x.negative != y.negative) (a * d) (b * c)

def neg (x : Binary64) : Binary64 := { x with negative := !x.negative }

def powerOfTen (k : Nat) : Option Binary64 := ofRatio false (Nat.pow 10 k) 1

/-- Divide by `10 ^ 308` a number of times, rounding each time. -/
def shrink (x : Binary64) : (steps : Nat) → Option Binary64
  | 0 => some x
  | steps + 1 =>
    if x.isZero then some x
    else ((powerOfTen 308).bind x.div).bind fun y => shrink y steps

/-- Scale by a power of ten.  Large negative powers are taken in steps of
`10 ^ 308`, each rounded; a positive power above 308 is too large. -/
def scaleTen (x : Binary64) (power : Int) : Option Binary64 :=
  if x.isZero then some x
  else if 308 < power then none
  else if 0 ≤ power then (powerOfTen power.toNat).bind x.mul
  else
    let n := (-power).toNat
    let steps := (n - 1) / 308
    (shrink x steps).bind fun y => (powerOfTen (n - 308 * steps)).bind y.div

/-- A decimal number: its digits and its power of ten are rounded one after the
other, which is exact as long as both are exact. -/
def ofDecimal (negative : Bool) (digits : Nat) (power : Int) : Option Binary64 := do
  let x ← ofRatio false digits 1
  let y ← x.scaleTen power
  return if negative then y.neg else y

/-- The number nearest to `digits * 10 ^ power`, or nothing when that is too
large.  Powers that leave no doubt are not computed. -/
def nearestDecimal (negative : Bool) (digits : Nat) (power : Int) : Option Binary64 :=
  let lead := power + digits.log2 / 3
  if digits = 0 ∨ lead < -400 then some (zero negative)
  else if 400 < power then none
  else if 0 ≤ power then ofRatio negative (digits * Nat.pow 10 power.toNat) 1
  else ofRatio negative digits (Nat.pow 10 (-power).toNat)

def round (x : Binary64) : Int :=
  let (a, b) := x.ratio
  let n := (2 * a + b) / (2 * b)
  if x.negative then -(n : Int) else n

end Binary64

end MerchantApi
