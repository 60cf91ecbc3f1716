import MerchantApi.Json.Basic
/-!
# Requests

A request names a method, a path below the base of the server, query pairs in
their order and a body.
-/

namespace MerchantApi

/-- Contents are compared byte by byte. -/
instance (priority := 1100) decidableEqContent : DecidableEq ByteArray := ByteArray.instDecidableEq

inductive Part where
  | text (name value : String)
  | file (name fileName mime : String) (content : ByteArray)
deriving DecidableEq

inductive Body where
  | empty
  | json (value : Json)
  | form (parts : List Part)
deriving DecidableEq

structure Request where
  method : String
  path : String
  query : List (String × String)
  body : Body
deriving DecidableEq

namespace Request

def plain (method path : String) : Request := ⟨method, path, [], .empty⟩

def get (path : String) : Request := plain "GET" path

def post (path : String) : Request := plain "POST" path

def put (path : String) : Request := plain "PUT" path

def delete (path : String) : Request := plain "DELETE" path

def withQuery (r : Request) (pairs : List (String × String)) : Request :=
  { r with query := r.query ++ pairs }

def withJson (r : Request) (value : Json) : Request := { r with body := .json value }

def withForm (r : Request) (parts : List Part) : Request := { r with body := .form parts }

/-- The value of the first query pair of a name. -/
def queryParam (r : Request) (name : String) : Option String :=
  (r.query.find? fun pair => pair.1 = name).map Prod.snd

def jsonBody (r : Request) : Option Json :=
  match r.body with
  | .json value => some value
  | _ => none

def label (r : Request) : String := r.method ++ " " ++ r.path

end Request

end MerchantApi
