import MerchantApi.Text.Utf8
/-!
# Units of sixteen bits

A character beyond the first 65536 is written as a pair of units.  Bytes are
read leniently: a unit that is half of a pair without its other half, and bytes
that make no unit at the end, become one replacement character.
-/

namespace MerchantApi.Text

def opensPair (n : Nat) : Bool := 0xD800 ≤ n && n ≤ 0xDBFF

def closesPair (n : Nat) : Bool := 0xDC00 ≤ n && n ≤ 0xDFFF

def joinPair (n m : Nat) : Char := Char.ofNat ((n - 0xD800) * 1024 + (m - 0xDC00) + 0x10000)

/-- Read bytes leniently as units, after a unit that has opened a pair.  The
unit of two bytes is given by `unit`. -/
def lossyUnits (unit : UInt8 → UInt8 → Nat) : (opened : Option Nat) → List UInt8 → List Char
  | none, [] => []
  | some _, [] => [replacement]
  | _, [_] => [replacement]
  | opened, a :: b :: rest =>
    let m := unit a b
    match opened, closesPair m with
    | some n, true => joinPair n m :: lossyUnits unit none rest
    | some _, false =>
      if opensPair m then replacement :: lossyUnits unit (some m) rest
      else replacement :: Char.ofNat m :: lossyUnits unit none rest
    | none, true => replacement :: lossyUnits unit none rest
    | none, false =>
      if opensPair m then lossyUnits unit (some m) rest
      else Char.ofNat m :: lossyUnits unit none rest

def lossyLowFirst (bytes : List UInt8) : String :=
  String.ofList (lossyUnits (fun a b => a.toNat + b.toNat * 256) none bytes)

def lossyHighFirst (bytes : List UInt8) : String :=
  String.ofList (lossyUnits (fun a b => a.toNat * 256 + b.toNat) none bytes)

end MerchantApi.Text
