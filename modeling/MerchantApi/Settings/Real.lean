import MerchantApi.Binary64.Shortest
/-!
# Numbers in settings

A number with a fraction as it is written in an environment variable or a
file: digits with a point or an exponent, or a word for what is infinite or no
number.  It is rounded once, to the nearest double.
-/

namespace MerchantApi.Settings

inductive Real where
  | finite (value : Binary64)
  | infinite (negative : Bool)
  | undefined
deriving DecidableEq

namespace Real

def text : Real → String
  | .finite x => x.plainText
  | .infinite negative => if negative then "-inf" else "inf"
  | .undefined => "NaN"

/-- The text of a number that shows that it is not an integer. -/
def pointedText : Real → String
  | .finite x =>
    let s := x.plainText
    if s.toList.contains '.' then s else s ++ ".0"
  | x => x.text

/-- The nearest unsigned integer of 64 bits; what is not a number counts as zero. -/
def toUInt64 : Real → UInt64
  | .finite x => UInt64.ofNat (min x.round.toNat (UInt64.size - 1))
  | .infinite negative => if negative then 0 else UInt64.ofNat (UInt64.size - 1)
  | .undefined => 0

/-- The number nearest to a decimal; one that is too large is infinite. -/
def ofDecimal (negative : Bool) (digits : Nat) (power : Int) : Real :=
  match Binary64.nearestDecimal negative digits power with
  | some x => .finite x
  | none => .infinite negative

def splitSign : List Char → Bool × List Char
  | '-' :: cs => (true, cs)
  | '+' :: cs => (false, cs)
  | cs => (false, cs)

/-- The power of ten that an exponent gives; an empty text gives none. -/
def exponent? : List Char → Option Int
  | [] => some 0
  | e :: cs =>
    let (minus, digits) := splitSign cs
    if (e = 'e' ∨ e = 'E') ∧ ¬digits.isEmpty ∧ digits.all Char.isDigit then
      let n := Nat.ofDigitChars 10 digits 0
      some (if minus then -(n : Int) else n)
    else none

def ofText? (s : String) : Option Real :=
  let (negative, cs) := splitSign s.toList
  let word := (String.ofList cs).toLower
  if word = "inf" ∨ word = "infinity" then some (.infinite negative)
  else if word = "nan" then some .undefined
  else
    let whole := cs.takeWhile Char.isDigit
    let (fraction, rest) := match cs.dropWhile Char.isDigit with
      | '.' :: cs => (cs.takeWhile Char.isDigit, cs.dropWhile Char.isDigit)
      | cs => ([], cs)
    let digits := whole ++ fraction
    if digits.isEmpty then none
    else
      (exponent? rest).map fun e =>
        ofDecimal negative (Nat.ofDigitChars 10 digits 0) (e - fraction.length)

end Real

end MerchantApi.Settings
