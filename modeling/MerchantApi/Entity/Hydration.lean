import MerchantApi.Entity.Basic
/-!
# Hydration

Raw records are loosely typed: fields may be missing or null, dates may be
empty, zero, texts or milliseconds, and nested records may be partial.  The
normal form of a raw record is laid over the blank entity, has its dates in one
spelling and its relations in their normal forms.  Hydration reads the entity
from the normal form.
-/

namespace MerchantApi

variable {E : Type} [Entity E]

namespace Entity

def rawMembers (entity : String) : Json → Except ApiError (Members Json)
  | .object members => .ok members
  | .null => .ok []
  | j => .error (.decode (.notAnObject entity j))

/-- Put the members that are not null over a record. -/
def merge (target source : Members Json) : Members Json :=
  Members.overlay target (source.filter fun member => !member.2.isNull)

/-- Whether a raw value counts as given where a date is expected. -/
def isTruthy : Json → Bool
  | .null => false
  | .bool b => b
  | .number n => !n.isZero
  | .string s => s ≠ ""
  | .array _ => true
  | .object _ => true

/-- The instant that a raw value names: a text of RFC 3339 or milliseconds. -/
def instant? : Json → Option Instant
  | .string s => Instant.parse .standard s
  | .number (.int n) => n.toInt64?.bind fun n => Instant.ofMillis? n.toInt
  | _ => none

def normalDate (entity field : String) (value : Json) : Except ApiError Json :=
  if isTruthy value then
    match instant? value with
    | some t => .ok (.string t.text)
    | none => .error (.decode (.invalidDate entity field value))
  else .ok .null

def normalizeDate (entity : String) (record : Members Json) (field : String) :
    Except ApiError (Members Json) :=
  match Members.get? record field with
  | none => .ok record
  | some value => (normalDate entity field value).map fun j => Members.insert field j record

def normalizeRelation (record : Members Json) (relation : Relation) :
    Except ApiError (Members Json) :=
  (relation.normalize ((Members.get? record relation.field).getD .null)).map fun j =>
    Members.insert relation.field j record

def normalMembers (E : Type) [Entity E] (raw : Json) : Except ApiError (Members Json) := do
  let given ← rawMembers (name E) raw
  let full := merge (record (blank : E)) given
  let dated ← (dates E).foldlM (normalizeDate (name E)) full
  (relations E).foldlM normalizeRelation dated

def normalize (E : Type) [Entity E] (raw : Json) : Except ApiError Json :=
  (normalMembers E raw).map .object

def hydrate (raw : Json) : Except ApiError E := do
  let members ← normalMembers E raw
  (ofRecord members).mapError fun cause => .decode (.invalidRecord (name E) cause)

def rehydrate (e : E) (patch : Json) : Except ApiError E := do
  let given ← rawMembers (name E) patch
  hydrate (.object (merge (record e) given))

end Entity

def Relation.to (R : Type) [Entity R] (field : String) : Relation where
  field := field
  normalize := Entity.normalize R

end MerchantApi
