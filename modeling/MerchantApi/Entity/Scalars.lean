import MerchantApi.Entity.Hydration
import MerchantApi.Template
/-!
# Scalar fields as parameters

The scalar fields of an entity, as texts, fill path templates and filter
lists.  Only the fields that differ from the blank entity filter.
-/

namespace MerchantApi

def Json.scalars (members : Members Json) : Members String :=
  members.filterMap fun member => member.2.scalarText?.map (member.1, ·)

def Json.params : Json → Except ApiError (Members String)
  | .object members => .ok (Json.scalars members)
  | _ => .error (.decode .fieldless)

namespace Entity

variable {E : Type} [Entity E]

def params (e : E) : Members String := Json.scalars (record e)

/-- The scalar fields of an entity that are not those of the blank one, as texts. -/
def setFields (e : E) : Members String :=
  Json.scalars ((record e).filter fun member =>
    Members.get? (record (blank : E)) member.1 ≠ some member.2)

end Entity

namespace Template

def resolveWith (t : Template) (value : Json) : Except ApiError String := do
  let params ← value.params
  t.resolve (Members.get? params)

end Template

end MerchantApi
