import MerchantApi.Json.Mismatch
/-!
# Records read from JSON values

A record is given as an object of its fields or as an array with its fields in
order.  Members that the record does not declare are passed over.
-/

namespace MerchantApi.Json

structure Slot (σ : Type) where
  name : String
  filled : σ → Bool
  put : Json → σ → Except Mismatch σ

/-- How a record is read: its name, its fields in order, and whether each of
them has to be there. -/
structure RecordShape (σ : Type) where
  title : String
  slots : List (Slot σ)
  required : Bool

namespace RecordShape

variable {σ : Type}

def arity (shape : RecordShape σ) : String :=
  let n := shape.slots.length
  shape.title ++ " with " ++ toString n ++ (if n = 1 then " element" else " elements")

/-- The first field in order that is still missing, as a mismatch. -/
def complete (shape : RecordShape σ) (state : σ) : Except Mismatch σ :=
  match shape.slots.find? fun slot => shape.required && !slot.filled state with
  | some slot => .error (.missing slot.name)
  | none => .ok state

def putMember (shape : RecordShape σ) (state : σ) (member : String × Json) :
    Except Mismatch σ :=
  match shape.slots.find? fun slot => slot.name = member.1 with
  | none => .ok state
  | some slot => if slot.filled state then .error (.repeated slot.name) else slot.put member.2 state

def putItems (shape : RecordShape σ) (total : Nat) :
    List (Slot σ) → List Json → σ → Except Mismatch σ
  | [], [], state => .ok state
  | [], _ :: _, _ => .error (.wrongLength total "fewer elements in array")
  | _ :: _, [], state =>
    if shape.required then .error (.wrongLength total shape.arity) else .ok state
  | slot :: slots, item :: items, state => do
    let state ← slot.put item state
    putItems shape total slots items state

def ofValue (shape : RecordShape σ) (empty : σ) : Json → Except Mismatch σ
  | .object members => do
    let state ← members.foldlM shape.putMember empty
    shape.complete state
  | .array items => shape.putItems items.length shape.slots items empty
  | j => .error (.wrongType j shape.title)

end RecordShape

def asList {α : Type} (item : Json → Except Mismatch α) : Json → Except Mismatch (List α)
  | .array items => items.mapM item
  | j => .error (.wrongType j "a sequence")

end MerchantApi.Json
