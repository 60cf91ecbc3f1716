import MerchantApi.Activity
import MerchantApi.EndpointSet
import MerchantApi.Entity.Scalars
import MerchantApi.ImportFile
/-!
# Services for entities

The operations on one resource of the server.  Each of them holds a guard of
the loading counter from its start to its end, resolves its path before it
sends anything, and turns every record of a reply into an entity by the model
of the service.
-/

namespace MerchantApi

inductive Page where
  | all
  | single (number : Nat)
deriving DecidableEq

namespace Page

def last : Nat := UInt32.size - 1

def ofNumber? (number : Nat) : Option Page :=
  if 0 < number ∧ number ≤ last then some (.single number) else none

end Page

/-- The operations on the entities of a type: where they go, how records become
entities, and how lists are cut into pages. -/
structure EntityService (E : Type) where
  endpoints : EndpointSet
  model : Json → Except ApiError E
  beforeCreate : Option (E → Except ApiError E)
  beforeUpdate : Option (E → Except ApiError E)
  listField : Option String
  pathParams : Members String
  pageSize : Nat
  pageSize_pos : 0 < pageSize

namespace EntityService

variable {E : Type} [Entity E]

def defaultPageSize : Nat := 50

def ofEndpoints (endpoints : EndpointSet) : EntityService E where
  endpoints := endpoints
  model := Entity.hydrate
  beforeCreate := none
  beforeUpdate := none
  listField := none
  pathParams := []
  pageSize := defaultPageSize
  pageSize_pos := by decide

def withModel (s : EntityService E) (model : Json → Except ApiError E) : EntityService E :=
  { s with model := model }

def withBeforeCreate (s : EntityService E) (hook : E → Except ApiError E) : EntityService E :=
  { s with beforeCreate := some hook }

def withBeforeUpdate (s : EntityService E) (hook : E → Except ApiError E) : EntityService E :=
  { s with beforeUpdate := some hook }

def withListField (s : EntityService E) (field : String) : EntityService E :=
  { s with listField := some field }

def withPathParam (s : EntityService E) (name value : String) : EntityService E :=
  { s with pathParams := Members.insert name value s.pathParams }

/-- The service with another number of records to a page; zero counts as one. -/
def withPageSize (s : EntityService E) (size : Nat) : EntityService E :=
  { s with pageSize := max size 1, pageSize_pos := by omega }

/-- The path of a template.  Parameters of the call come before fixed ones. -/
def resolvePath (s : EntityService E) (t : Template) (params : Members String) :
    Except ApiError String :=
  t.resolve fun name => (Members.get? params name).or (Members.get? s.pathParams name)

def actionPath (s : EntityService E) (name : String) : Except ApiError String :=
  s.resolvePath (s.endpoints.action name) []

def applyHook (stage : HookStage) (hook : Option (E → Except ApiError E)) (e : E) : Call E :=
  match hook with
  | none => pure e
  | some f => Call.hook stage (Entity.json e) (f e)

/-- The items of a reply: a list, nothing, or an object with one of these in
the list field. -/
def unwrapList (s : EntityService E) (reply : Json) : Except ApiError (List Json) :=
  let inner := match reply, s.listField with
    | .object members, some field => (Members.get? members field).getD reply
    | _, _ => reply
  match inner with
  | .array items => .ok items
  | .null => .ok []
  | other => .error (.decode (.notAList (Entity.name E) other))

def readList (s : EntityService E) (reply : Json) : Except ApiError (List E) := do
  let items ← s.unwrapList reply
  items.mapM s.model

def idParams (id : UInt64) : Members String := [("id", toString id.toNat)]

def create (s : EntityService E) (e : E) : Call E :=
  Call.guarded do
    let e ← applyHook .beforeCreate s.beforeCreate e
    let path ← Call.ofExcept (s.resolvePath s.endpoints.create (Entity.params e))
    let reply ← Call.send ((Request.post path).withJson (Entity.json e))
    Call.ofExcept (s.model reply)

def update (s : EntityService E) (e : E) : Call E :=
  Call.guarded do
    let e ← applyHook .beforeUpdate s.beforeUpdate e
    let path ← Call.ofExcept (s.resolvePath s.endpoints.update (Entity.params e))
    let reply ← Call.send ((Request.put path).withJson (Entity.json e))
    Call.ofExcept (s.model reply)

def get (s : EntityService E) (id : UInt64) : Call E :=
  Call.guarded do
    let path ← Call.ofExcept (s.resolvePath s.endpoints.get (idParams id))
    let reply ← Call.send (Request.get path)
    Call.ofExcept (s.model reply)

def delete (s : EntityService E) (id : UInt64) : Call Json :=
  Call.guarded do
    let path ← Call.ofExcept (s.resolvePath s.endpoints.delete (idParams id))
    Call.send (Request.delete path)

def bulkDelete (s : EntityService E) (ids : List UInt64) : Call Json :=
  Call.guarded do
    let path ← Call.ofExcept (s.actionPath "bulk_delete")
    Call.send ((Request.post path).withJson (.object [("ids", .array (ids.map .ofUInt64))]))

def execute (_s : EntityService E) (request : Request) : Call Json :=
  Call.guarded (Call.send request)

/-! ### Lists -/

/-- What a list is filtered by: the set fields of a query under the given
parameters. -/
def filters (query : E) (params : Members String) : Members String :=
  Members.overlay (Entity.setFields query) params

/-- The filters that the path of the list does not use up. -/
def queryFilters (s : EntityService E) (filters : Members String) : Members String :=
  filters.filter fun entry => entry.1 ∉ s.endpoints.getAll.placeholders

def pageRequest (s : EntityService E) (path : String) (filters : Members String)
    (number : Nat) : Request :=
  ((Request.get path).withQuery filters).withQuery
    [("page", toString number), ("per_page", toString s.pageSize)]

def fetchPage (s : EntityService E) (path : String) (filters : Members String) (number : Nat) :
    Call (List E) := do
  let reply ← Call.send (s.pageRequest path filters number)
  Call.ofExcept (s.readList reply)

/-- Fetch pages from a number on, up to the first one that is not full.  At
most `count` pages are fetched. -/
def fetchFrom (s : EntityService E) (path : String) (filters : Members String) :
    (count : Nat) → (number : Nat) → (before : List E) → Call (List E)
  | 0, _, before => pure before
  | count + 1, number, before => do
    let batch ← s.fetchPage path filters number
    if batch.length < s.pageSize then pure (before ++ batch)
    else s.fetchFrom path filters count (number + 1) (before ++ batch)

def getAll (s : EntityService E) (query : E) (params : Members String) (page : Page) :
    Call (List E) :=
  Call.guarded do
    let all := filters query params
    let path ← Call.ofExcept (s.resolvePath s.endpoints.getAll all)
    let rest := s.queryFilters all
    match page with
    | .single number => s.fetchPage path rest number
    | .all => s.fetchFrom path rest Page.last 1 []

/-! ### Imports -/

def importParts (file : ImportFile) (headers : Members String) : List Part :=
  [ .file "file" file.fileName file.mime file.content,
    .text "headerMapping"
      (Json.object (headers.map fun entry => (entry.1, .string entry.2))).compact ]

def importFile (s : EntityService E) (file : ImportFile) (headers : Members String) :
    Call (List E) :=
  Call.guarded do
    let path ← Call.ofExcept (s.actionPath "import")
    let reply ← Call.send ((Request.put path).withForm (importParts file headers))
    Call.ofExcept (s.readList reply)

end EntityService

end MerchantApi
