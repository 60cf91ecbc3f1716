import MerchantApi.Entity.Hydration
/-!
# Mappings of placeholders to labels

A mapping says which text a placeholder stands for in one field of a merchant.
The server limits the lengths of its texts, counted in characters.
-/

namespace MerchantApi

structure Mapping where
  id : UInt64
  fieldName : String
  placeholder : String
  displayText : String
  labelId : Int64
  isActive : Bool
  created : Option Instant
  updated : Option Instant
deriving DecidableEq

namespace Mapping

def blank : Mapping :=
  { id := 0, fieldName := "", placeholder := "", displayText := "", labelId := 0,
    isActive := true, created := none, updated := none }

def ofLabel (fieldName placeholder displayText : String) (labelId : Int64) : Mapping :=
  { blank with
    fieldName := fieldName, placeholder := placeholder, displayText := displayText,
    labelId := labelId }

def fields : List (Field Mapping) :=
  [ .instant "created" Mapping.created fun m v => { m with created := v },
    .text "display_text" Mapping.displayText fun m v => { m with displayText := v },
    .text "field_name" Mapping.fieldName fun m v => { m with fieldName := v },
    .identifier "id" Mapping.id fun m v => { m with id := v },
    .flag "is_active" Mapping.isActive fun m v => { m with isActive := v },
    .integer "label_id" Mapping.labelId fun m v => { m with labelId := v },
    .text "placeholder" Mapping.placeholder fun m v => { m with placeholder := v },
    .instant "updated" Mapping.updated fun m v => { m with updated := v } ]

instance : Entity Mapping where
  name := "merchant mapping"
  blank := blank
  fields := fields
  layout := ["id", "field_name", "placeholder", "display_text", "label_id", "is_active",
    "created", "updated"]
  dates := ["created", "updated"]
  relations := []
  id := Mapping.id

structure Violation where
  field : String
  least : Nat
  most : Nat
  value : String
deriving DecidableEq

def limits (m : Mapping) : List Violation :=
  [⟨"display_text", 1, 500, m.displayText⟩, ⟨"field_name", 1, 100, m.fieldName⟩,
    ⟨"placeholder", 1, 100, m.placeholder⟩]

def Violation.holds (v : Violation) : Bool :=
  v.value.length < v.least || v.most < v.value.length

def violations (m : Mapping) : List Violation := m.limits.filter Violation.holds

/-- The mapping itself, unless a text of it is out of bounds.  What is said of the limits
that it breaks is a parameter. -/
def validate (describe : List Violation → String) (m : Mapping) : Except ApiError Mapping :=
  match m.violations with
  | [] => .ok m
  | vs => .error (.hookRejected ("Invalid merchant mapping: " ++ describe vs))

end Mapping

end MerchantApi
