import MerchantApi.Text.Hex
import MerchantApi.Text.Utf8
/-!
# Form-encoded pairs

Query pairs are written byte by byte: letters, digits and four marks stand for
themselves, a space becomes a plus sign and every other byte is written in
hexadecimal after a percent sign.  Reading undoes this for any text.
-/

namespace MerchantApi.Http.Form

def percent (b : UInt8) : List Char :=
  ['%', Text.hexUpper (b.toNat / 16), Text.hexUpper (b.toNat % 16)]

def isPlain (b : UInt8) : Bool :=
  let c := Char.ofNat b.toNat
  c.isAlphanum || c = '*' || c = '-' || c = '.' || c = '_'

def encodeByte (b : UInt8) : List Char :=
  if isPlain b then [Char.ofNat b.toNat]
  else if b = 0x20 then ['+']
  else percent b

def encodeText (s : String) : List Char :=
  s.toUTF8.data.toList.flatMap encodeByte

def encodePair (pair : String × String) : List Char :=
  encodeText pair.1 ++ '=' :: encodeText pair.2

def encode : List (String × String) → List Char
  | [] => []
  | [pair] => encodePair pair
  | pair :: rest => encodePair pair ++ '&' :: encode rest

def decodeBytes : List Char → List UInt8
  | [] => []
  | '+' :: rest => 0x20 :: decodeBytes rest
  | '%' :: a :: b :: rest =>
    match Text.hexValue? a, Text.hexValue? b with
    | some m, some n => UInt8.ofNat (m * 16 + n) :: decodeBytes rest
    | _, _ => 0x25 :: decodeBytes (a :: b :: rest)
  | c :: rest => (String.singleton c).toUTF8.data.toList ++ decodeBytes rest

def decodeText (cs : List Char) : String := Text.lossy ⟨(decodeBytes cs).toArray⟩

def decodePair (cs : List Char) : String × String :=
  (decodeText (cs.takeWhile (· ≠ '=')), decodeText ((cs.dropWhile (· ≠ '=')).drop 1))

def decode (query : String) : List (String × String) :=
  ((query.toList.splitOn '&').filter (· ≠ [])).map decodePair

end MerchantApi.Http.Form
