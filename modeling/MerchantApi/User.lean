import MerchantApi.Entity.Hydration
/-!
# Users

The accounts that own merchants.
-/

namespace MerchantApi

structure User where
  id : UInt64
  username : String
  name : String
  email : String
  created : Option Instant
  updated : Option Instant
deriving DecidableEq

namespace User

def blank : User :=
  { id := 0, username := "", name := "", email := "", created := none, updated := none }

def fields : List (Field User) :=
  [ .instant "created" User.created fun u v => { u with created := v },
    .text "email" User.email fun u v => { u with email := v },
    .identifier "id" User.id fun u v => { u with id := v },
    .text "name" User.name fun u v => { u with name := v },
    .instant "updated" User.updated fun u v => { u with updated := v },
    .text "username" User.username fun u v => { u with username := v } ]

instance : Entity User where
  name := "user"
  blank := blank
  fields := fields
  layout := ["id", "username", "name", "email", "created", "updated"]
  dates := ["created", "updated"]
  relations := []
  id := User.id

/-- The name to show, which is the account name when there is no other. -/
def displayName (u : User) : String := if u.name = "" then u.username else u.name

end User

end MerchantApi
