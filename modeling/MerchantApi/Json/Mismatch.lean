import MerchantApi.Json.Basic
import MerchantApi.Text.Quoted
/-!
# Typed reading of JSON values

A value that does not have the expected type is refused with what was found
and what was expected.
-/

namespace MerchantApi.Json

inductive Mismatch where
  | wrongType (found : Json) (expected : String)
  | wrongValue (found : Json) (expected : String)
  | wrongLength (found : Nat) (expected : String)
  | missing (name : String)
  | repeated (name : String)

def describe : Json → String
  | .null => "null"
  | .bool true => "boolean `true`"
  | .bool false => "boolean `false`"
  | .number (.int n) => "integer `" ++ String.ofList n.chars ++ "`"
  | .number (.real x) => "floating point `" ++ x.text ++ "`"
  | .string s => "string " ++ Text.quoted s
  | .array _ => "sequence"
  | .object _ => "map"

def Mismatch.message : Mismatch → String
  | .wrongType found expected => "invalid type: " ++ describe found ++ ", expected " ++ expected
  | .wrongValue found expected => "invalid value: " ++ describe found ++ ", expected " ++ expected
  | .wrongLength found expected =>
    "invalid length " ++ toString found ++ ", expected " ++ expected
  | .missing name => "missing field `" ++ name ++ "`"
  | .repeated name => "duplicate field `" ++ name ++ "`"

def asUInt64 : Json → Except Mismatch UInt64
  | j@(.number (.int n)) =>
    match n.toUInt64? with
    | some v => .ok v
    | none => .error (.wrongValue j "u64")
  | j => .error (.wrongType j "u64")

def asInt64 : Json → Except Mismatch Int64
  | j@(.number (.int n)) =>
    match n.toInt64? with
    | some v => .ok v
    | none => .error (.wrongValue j "i64")
  | j => .error (.wrongType j "i64")

def asText : Json → Except Mismatch String
  | .string s => .ok s
  | j => .error (.wrongType j "a string")

def asBool : Json → Except Mismatch Bool
  | .bool b => .ok b
  | j => .error (.wrongType j "a boolean")

end MerchantApi.Json
