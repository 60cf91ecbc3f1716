import MerchantApi.MappingService
import MerchantApi.Merchant
/-!
# All services

The services of the client, which share a transport and a page size but have a
loading counter each.
-/

namespace MerchantApi

namespace Merchant

def base : String := "/merchants"

def service : EntityService Merchant :=
  (EntityService.ofEndpoints (.rest base)).withListField "merchants"

end Merchant

structure Services where
  merchants : EntityService Merchant
  mappings : MappingService

def Services.ofPageSize (describe : List Mapping.Violation → String) (size : Nat) :
    Services where
  merchants := Merchant.service.withPageSize size
  mappings := (MappingService.standard describe).withPageSize size

end MerchantApi
