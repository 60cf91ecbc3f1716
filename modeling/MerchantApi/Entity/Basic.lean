import MerchantApi.ApiError
import MerchantApi.Entity.Field
/-!
# Entities

An entity type is described by its name, its blank entity, its declared fields
and the names of those that hold dates or other entities.  Reading, writing
and hydrating follow from the description.
-/

namespace MerchantApi

structure Relation where
  field : String
  normalize : Json → Except ApiError Json

/-- A type of entities that are exchanged with the server.  The declared fields
are in increasing order of their names; `layout` names them in the order in
which a document lists them. -/
class Entity (E : Type) where
  name : String
  blank : E
  fields : List (Field E)
  layout : List String
  dates : List String
  relations : List Relation
  id : E → UInt64

namespace Entity

variable {E : Type} [Entity E]

def isNew (e : E) : Bool := id e = 0

def record (e : E) : Members Json :=
  (fields (E := E)).map fun field => (field.name, field.write e)

def json (e : E) : Json := .object (record e)

def document (e : E) : Json :=
  .object ((layout E).filterMap fun name => (Members.get? (record e) name).map (name, ·))

def ofRecord (members : Members Json) : Except Json.Mismatch E :=
  (fields (E := E)).foldlM (fun e field =>
    match Members.get? members field.name with
    | some j => field.read j e
    | none => .error (.missing field.name)) blank

end Entity

namespace Field

variable {E R : Type}

def entity [Entity R] (name : String) (get : E → R) (set : E → R → E) : Field E where
  name := name
  write e := Entity.json (get e)
  read j e :=
    match j with
    | .object members => (Entity.ofRecord members).map (set e)
    | j => .error (.wrongType j (Entity.name R))

end Field

end MerchantApi
