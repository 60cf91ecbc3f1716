import MerchantApi.Text.Space
/-!
# Header mappings in options

An option `HEADER=FIELD` says from which field of a merchant the column under a
header is taken.  The first equals sign separates the two; white space around
them does not count, and neither may be blank.
-/

namespace MerchantApi.CommandLine

def splitEquals? (cs : List Char) : Option (List Char × List Char) :=
  match cs.dropWhile (· ≠ '=') with
  | _ :: rest => some (cs.takeWhile (· ≠ '='), rest)
  | [] => none

def headerMapping? (raw : String) : Option (String × String) :=
  match splitEquals? raw.toList with
  | some (header, field) =>
    if Text.isBlank header ∨ Text.isBlank field then none
    else some (String.ofList (Text.trim header), String.ofList (Text.trim field))
  | none => none

end MerchantApi.CommandLine
