import MerchantApi.ApiError
import MerchantApi.Json.Record
/-!
# Acknowledgements of bulk operations

What the server answers to saving groups and to deleting fields.  Missing
members, and a null in the place of the whole answer, stand for their blanks.
-/

namespace MerchantApi

structure SaveAck where
  message : String
  count : UInt64
deriving DecidableEq

structure DeleteAck where
  deleted : UInt64
deriving DecidableEq

def acknowledgement {α : Type} (shape : Json.RecordShape α) (blank : α) (j : Json) :
    Except ApiError α :=
  if j.isNull then .ok blank
  else (shape.ofValue blank j).mapError fun cause => .decode (.invalidAcknowledgement cause)

namespace SaveAck

def shape : Json.RecordShape SaveAck where
  title := "struct BulkAck"
  slots :=
    [ ⟨"message", fun _ => false, fun j a => (Json.asText j).map fun s => { a with message := s }⟩,
      ⟨"count", fun _ => false, fun j a => (Json.asUInt64 j).map fun n => { a with count := n }⟩ ]
  required := false

def ofReply (j : Json) : Except ApiError SaveAck := acknowledgement shape ⟨"", 0⟩ j

def document (a : SaveAck) : Json :=
  .object [("message", .string a.message), ("count", .ofUInt64 a.count)]

def json (a : SaveAck) : Json :=
  .object [("count", .ofUInt64 a.count), ("message", .string a.message)]

end SaveAck

namespace DeleteAck

def shape : Json.RecordShape DeleteAck where
  title := "struct BulkDeleteAck"
  slots :=
    [⟨"deleted", fun _ => false, fun j a => (Json.asUInt64 j).map fun n => { a with deleted := n }⟩]
  required := false

def ofReply (j : Json) : Except ApiError DeleteAck := acknowledgement shape ⟨0⟩ j

def json (a : DeleteAck) : Json := .object [("deleted", .ofUInt64 a.deleted)]

end DeleteAck

end MerchantApi
