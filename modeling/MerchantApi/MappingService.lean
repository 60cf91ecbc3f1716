import MerchantApi.EntityService
import MerchantApi.Mapping.Acknowledgement
import MerchantApi.Mapping.Group
/-!
# The service for mappings

Mappings are checked before they are created or updated.  Besides the
operations on single mappings there is the grouped view: loading all groups,
saving groups and deleting fields.
-/

namespace MerchantApi

structure MappingService where
  entities : EntityService Mapping

namespace MappingService

def base : String := "/merchant-mappings"

/-- The service at some endpoints, where `describe` words a rejection. -/
def ofEndpoints (describe : List Mapping.Violation → String) (endpoints : EndpointSet) :
    MappingService where
  entities := ((EntityService.ofEndpoints endpoints).withBeforeCreate
    (Mapping.validate describe)).withBeforeUpdate (Mapping.validate describe)

def standard (describe : List Mapping.Violation → String) : MappingService :=
  ofEndpoints describe (.rest base)

def withPageSize (s : MappingService) (size : Nat) : MappingService where
  entities := s.entities.withPageSize size

def loadAll (s : MappingService) : Call (List Group) :=
  Call.guarded do
    let mappings ← s.entities.getAll Mapping.blank [] .all
    pure (Group.ofMappings mappings)

def saveBody (groups : List Group) : Json :=
  .object [("fieldMappings", .array (groups.map Group.json))]

def bulkSave (s : MappingService) (groups : List Group) : Call SaveAck := do
  let path ← Call.ofExcept (s.entities.actionPath "bulk_save")
  let reply ← s.entities.execute ((Request.post path).withJson (saveBody groups))
  Call.ofExcept (SaveAck.ofReply reply)

def bulkDeleteByFields (s : MappingService) (fields : List String) : Call DeleteAck := do
  let path ← Call.ofExcept (s.entities.actionPath "bulk_delete")
  let body : Json := .object [("fields", .array (fields.map .string))]
  let reply ← s.entities.execute ((Request.delete path).withJson body)
  Call.ofExcept (DeleteAck.ofReply reply)

end MappingService

end MerchantApi
