/-!
# Texts and their bytes

Bytes that are not UTF-8 are read leniently where a message shows them: every
longest part of them that starts a character but does not finish it becomes one
replacement character.
-/

namespace MerchantApi.Text

def replacement : Char := Char.ofNat 0xFFFD

/-- How many bytes follow a first byte, the bounds of the second one, and the
bits that the first one holds. -/
def lead? (b : Nat) : Option (Nat × Nat × Nat × Nat) :=
  if 0xC2 ≤ b ∧ b ≤ 0xDF then some (1, 0x80, 0xBF, b - 0xC0)
  else if b = 0xE0 then some (2, 0xA0, 0xBF, 0)
  else if b = 0xED then some (2, 0x80, 0x9F, 13)
  else if 0xE1 ≤ b ∧ b ≤ 0xEF then some (2, 0x80, 0xBF, b - 0xE0)
  else if b = 0xF0 then some (3, 0x90, 0xBF, 0)
  else if 0xF1 ≤ b ∧ b ≤ 0xF3 then some (3, 0x80, 0xBF, b - 0xF0)
  else if b = 0xF4 then some (3, 0x80, 0x8F, 4)
  else none

inductive Pending where
  | nothing
  | character (missing low high value : Nat)

def lossyFrom : Pending → List UInt8 → List Char
  | .nothing, [] => []
  | .character .., [] => [replacement]
  | pending, byte :: bytes =>
    let b := byte.toNat
    let start (before : List Char) : List Char :=
      if b < 0x80 then before ++ Char.ofNat b :: lossyFrom .nothing bytes
      else
        match lead? b with
        | some (missing, low, high, value) =>
          before ++ lossyFrom (.character missing low high value) bytes
        | none => before ++ replacement :: lossyFrom .nothing bytes
    match pending with
    | .nothing => start []
    | .character missing low high value =>
      if low ≤ b ∧ b ≤ high then
        let value := value * 64 + (b - 0x80)
        if missing ≤ 1 then Char.ofNat value :: lossyFrom .nothing bytes
        else lossyFrom (.character (missing - 1) 0x80 0xBF value) bytes
      else start [replacement]

def lossy (bytes : ByteArray) : String := String.ofList (lossyFrom .nothing bytes.toList)

def ofUtf8? (bytes : ByteArray) : Option String := String.fromUTF8? bytes

/-- The character that some bytes begin, after those that have begun it, and how
many of the bytes are its own. -/
def complete? : (missing low high value : Nat) → List UInt8 → Option (Char × Nat)
  | 0, _, _, value, _ => some (Char.ofNat value, 0)
  | _ + 1, _, _, _, [] => none
  | missing + 1, low, high, value, byte :: bytes =>
    let b := byte.toNat
    if low ≤ b ∧ b ≤ high then
      (complete? missing 0x80 0xBF (value * 64 + (b - 0x80)) bytes).map fun (c, n) => (c, n + 1)
    else none

def first? (byte : UInt8) (bytes : List UInt8) : Option (Char × Nat) :=
  if byte.toNat < 0x80 then some (Char.ofNat byte.toNat, 0)
  else
    match lead? byte.toNat with
    | some (missing, low, high, value) => complete? missing low high value bytes
    | none => none

/-- The characters of bytes; nothing stands for every byte that belongs to none.
The bytes to be skipped belong to the character before them. -/
def charactersFrom : (skip : Nat) → List UInt8 → List (Option Char)
  | _, [] => []
  | skip + 1, _ :: bytes => charactersFrom skip bytes
  | 0, byte :: bytes =>
    match first? byte bytes with
    | some (c, own) => some c :: charactersFrom own bytes
    | none => none :: charactersFrom 0 bytes

def characters (bytes : List UInt8) : List (Option Char) := charactersFrom 0 bytes

/-- The characters of the longest start of the bytes that is UTF-8. -/
def validStart (bytes : List UInt8) : List Char :=
  ((characters bytes).takeWhile Option.isSome).filterMap id

end MerchantApi.Text
