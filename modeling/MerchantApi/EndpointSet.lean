import MerchantApi.Template
import MerchantApi.Text.Slash
/-!
# Endpoints of a resource

The templates of the five operations on a resource.  By convention a
collection lives at a base path and an item at its identifier below it; named
actions live below the collection too.
-/

namespace MerchantApi

structure EndpointSet where
  create : Template
  getAll : Template
  get : Template
  update : Template
  delete : Template
deriving DecidableEq

namespace EndpointSet

def rest (base : String) : EndpointSet :=
  let collection := Text.dropTrailingSlashes base
  let item : Template := ⟨collection ++ "/\x7bid\x7d"⟩
  { create := ⟨collection⟩
    getAll := ⟨collection⟩
    get := item
    update := item
    delete := item }

def action (endpoints : EndpointSet) (name : String) : Template :=
  ⟨Text.dropTrailingSlashes endpoints.getAll.source ++ "/" ++ name⟩

end EndpointSet

end MerchantApi
