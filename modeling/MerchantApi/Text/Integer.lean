/-!
# Integers in texts

Decimal integers as they are given in options and settings: digits after at
most one sign.  A text is read from the left, and the first thing wrong with it
is what a message names.
-/

namespace MerchantApi.Text

inductive IntegerFault where
  | empty
  | invalidDigit
  | tooLarge
  | zero
deriving DecidableEq

def IntegerFault.message : IntegerFault → String
  | .empty => "cannot parse integer from empty string"
  | .invalidDigit => "invalid digit found in string"
  | .tooLarge => "number too large to fit in target type"
  | .zero => "number would be zero for non-zero type"

def appendDigits (limit value : Nat) : List Char → Except IntegerFault Nat
  | [] => .ok value
  | c :: cs =>
    if ¬c.isDigit then .error .invalidDigit
    else
      let next := value * 10 + (c.toNat - 48)
      if next < limit then appendDigits limit next cs else .error .tooLarge

def digits (limit : Nat) (cs : List Char) : Except IntegerFault Nat :=
  if cs.isEmpty then .error .invalidDigit else appendDigits limit 0 cs

/-- The natural number below a limit that a text gives; a plus sign may stand
before it. -/
def natural (limit : Nat) (s : String) : Except IntegerFault Nat :=
  match s.toList with
  | [] => .error .empty
  | '+' :: cs => digits limit cs
  | cs => digits limit cs

def int64? (s : String) : Option Int64 :=
  match s.toList with
  | '-' :: cs => (digits (UInt64.size / 2 + 1) cs).toOption.map fun n => Int64.ofInt (-(n : Int))
  | _ => (natural (UInt64.size / 2) s).toOption.map Int64.ofNat

end MerchantApi.Text
