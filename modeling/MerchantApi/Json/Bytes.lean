import MerchantApi.Json.Reader
import MerchantApi.Text.Utf8
/-!
# JSON in bytes

The bytes of a document are checked string by string: a string that is not
UTF-8 is a failure at its closing quote, unless something before that is wrong
already.  Elsewhere a byte that is no character is an unexpected character.
-/

namespace MerchantApi.Json

namespace Reader

/-- What stands for a byte that is no character: a character of one byte that has
no meaning outside of strings. -/
def placeholder : Char := Char.ofNat 0x7F

/-- Where the search for a broken string is: outside of strings, or in one, maybe
behind a backslash, that is whole so far or not. -/
inductive Scan where
  | outside
  | inside (escaped whole : Bool)

/-- The start of a text up to the end of the first closed string that has a byte
that is no character. -/
def brokenStart? : Scan → List (Option Char) → Option (List Char)
  | _, [] => none
  | .outside, c :: cs =>
    let next : Scan := if c = some '"' then .inside false true else .outside
    (brokenStart? next cs).map (c.getD placeholder :: ·)
  | .inside escaped whole, c :: cs =>
    if c = some '"' ∧ ¬escaped then
      if whole then (brokenStart? .outside cs).map ('"' :: ·) else some ['"']
    else
      let next : Scan := .inside (c = some '\\' ∧ ¬escaped) (whole && c.isSome)
      (brokenStart? next cs).map (c.getD placeholder :: ·)

/-- Whether a reader that fails at the end of a text has found nothing wrong with
it but that an array or an object is not closed. -/
def isUnfinished {α : Type} : Reading α → Bool
  | .ok (_, rest) => (skipSpace rest).isEmpty
  | .error ⟨.endOfList, [], _⟩ => true
  | .error ⟨.endOfObject, [], _⟩ => true
  | _ => false

def readBytes {α : Type} (reader : List Char → Reading α) (bytes : List UInt8) :
    Except ParseError α :=
  let marked := Text.characters bytes
  let text := marked.map (·.getD placeholder)
  let whole := (finish (reader text)).mapError fun f => f.place text
  match brokenStart? .outside marked with
  | none => whole
  | some start =>
    if isUnfinished (reader start) then .error ((⟨.invalidCodePoint, [], 0⟩ : Failure).place start)
    else whole

end Reader

def parseBytes (bytes : ByteArray) : Except Reader.ParseError Json :=
  match Text.ofUtf8? bytes with
  | some text => parse text
  | none => Reader.readBytes (Reader.value Reader.maxDepth) bytes.data.toList

end MerchantApi.Json
