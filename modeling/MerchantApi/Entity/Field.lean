import MerchantApi.Instant.Text
import MerchantApi.Json.Mismatch
/-!
# Declared fields of an entity

A field ties a name to a part of an entity: it writes the part as a JSON value
and puts a JSON value into the part.
-/

namespace MerchantApi

structure Field (E : Type) where
  name : String
  write : E → Json
  read : Json → E → Except Json.Mismatch E

namespace Field

variable {E : Type}

def identifier (name : String) (get : E → UInt64) (set : E → UInt64 → E) : Field E where
  name := name
  write e := .ofUInt64 (get e)
  read j e := (Json.asUInt64 j).map (set e)

def integer (name : String) (get : E → Int64) (set : E → Int64 → E) : Field E where
  name := name
  write e := .ofInt64 (get e)
  read j e := (Json.asInt64 j).map (set e)

def text (name : String) (get : E → String) (set : E → String → E) : Field E where
  name := name
  write e := .string (get e)
  read j e := (Json.asText j).map (set e)

def flag (name : String) (get : E → Bool) (set : E → Bool → E) : Field E where
  name := name
  write e := .bool (get e)
  read j e := (Json.asBool j).map (set e)

def ofInstant : Option Instant → Json
  | none => .null
  | some t => .string t.text

def asInstant : Json → Except Json.Mismatch (Option Instant)
  | .null => .ok none
  | j@(.string s) =>
    match Instant.parse .extended s with
    | some t => .ok (some t)
    | none => .error (.wrongValue j "an RFC 3339 formatted date and time string")
  | j => .error (.wrongType j "an RFC 3339 formatted date and time string")

def instant (name : String) (get : E → Option Instant) (set : E → Option Instant → E) :
    Field E where
  name := name
  write e := ofInstant (get e)
  read j e := (asInstant j).map (set e)

end Field

end MerchantApi
