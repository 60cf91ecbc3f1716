import MerchantApi.Text.Unprintable
/-!
# Texts quoted in messages

A text that a message cites stands in double quotes.  Characters that do not
print alone are written by their code points.
-/

namespace MerchantApi.Text

def cited (c : Char) : List Char :=
  if c = '"' then ['\\', '"']
  else if c = '\\' then ['\\', '\\']
  else if c = '\n' then ['\\', 'n']
  else if c = '\r' then ['\\', 'r']
  else if c = '\t' then ['\\', 't']
  else if c.toNat = 0 then ['\\', '0']
  else if isUnprintable c then
    '\\' :: 'u' :: '{' :: (Nat.toDigits 16 c.toNat ++ ['}'])
  else [c]

def quoted (s : String) : String :=
  String.ofList ('"' :: (s.toList.flatMap cited ++ ['"']))

end MerchantApi.Text
