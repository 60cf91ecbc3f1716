import MerchantApi.Json.Basic
import MerchantApi.Text.Hex
/-!
# JSON text

A value is written on one line without spaces, or spread over lines with two
spaces of indentation.  A string keeps every character but the quote, the
backslash and the control characters below the space.
-/

namespace MerchantApi.Json

inductive Style where
  | compact
  | indented
deriving DecidableEq

def Style.newline : Style → Nat → List Char
  | .compact, _ => []
  | .indented, depth => '\n' :: List.replicate (2 * depth) ' '

def Style.colon : Style → List Char
  | .compact => [':']
  | .indented => [':', ' ']

def escape (c : Char) : List Char :=
  if c = '"' then ['\\', '"']
  else if c = '\\' then ['\\', '\\']
  else if c = '\n' then ['\\', 'n']
  else if c = '\r' then ['\\', 'r']
  else if c = '\t' then ['\\', 't']
  else if c.toNat = 8 then ['\\', 'b']
  else if c.toNat = 12 then ['\\', 'f']
  else if c.toNat < 32 then
    ['\\', 'u', '0', '0', Text.hexLower (c.toNat / 16), Text.hexLower (c.toNat % 16)]
  else [c]

def quoted (s : String) : List Char :=
  '"' :: (s.toList.flatMap escape ++ ['"'])

mutual

def chars (style : Style) (depth : Nat) : Json → List Char
  | .null => ['n', 'u', 'l', 'l']
  | .bool true => ['t', 'r', 'u', 'e']
  | .bool false => ['f', 'a', 'l', 's', 'e']
  | .number n => n.chars
  | .string s => quoted s
  | .array [] => ['[', ']']
  | .array items => '[' :: itemChars style (depth + 1) items ++ style.newline depth ++ [']']
  | .object [] => ['{', '}']
  | .object members =>
    '{' :: memberChars style (depth + 1) members ++ style.newline depth ++ ['}']

def itemChars (style : Style) (depth : Nat) : List Json → List Char
  | [] => []
  | [x] => style.newline depth ++ chars style depth x
  | x :: rest => style.newline depth ++ chars style depth x ++ ',' :: itemChars style depth rest

def memberChars (style : Style) (depth : Nat) : List (String × Json) → List Char
  | [] => []
  | [(n, x)] => style.newline depth ++ quoted n ++ style.colon ++ chars style depth x
  | (n, x) :: rest =>
    style.newline depth ++ quoted n ++ style.colon ++ chars style depth x ++
      ',' :: memberChars style depth rest

end

def compact (j : Json) : String := String.ofList (chars .compact 0 j)

def pretty (j : Json) : String := String.ofList (chars .indented 0 j)

end MerchantApi.Json
