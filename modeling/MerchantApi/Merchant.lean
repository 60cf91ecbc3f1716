import MerchantApi.User
/-!
# Merchants

A merchant has an owner and a number of free texts, in which the server puts
labels in the place of placeholders.
-/

namespace MerchantApi

structure Merchant where
  id : UInt64
  title : String
  legalRepresentative : String
  businessAddress : String
  businessDistrict : String
  validTime : String
  trafficConditions : String
  fixedEvents : String
  terminalType : String
  specialTimePeriods : String
  customFilters : String
  owner : User
  created : Option Instant
  updated : Option Instant
deriving DecidableEq

namespace Merchant

def blank : Merchant :=
  { id := 0, title := "", legalRepresentative := "", businessAddress := "",
    businessDistrict := "", validTime := "", trafficConditions := "", fixedEvents := "",
    terminalType := "", specialTimePeriods := "", customFilters := "", owner := .blank,
    created := none, updated := none }

def fields : List (Field Merchant) :=
  [ .text "business_address" Merchant.businessAddress
      fun m v => { m with businessAddress := v },
    .text "business_district" Merchant.businessDistrict
      fun m v => { m with businessDistrict := v },
    .instant "created" Merchant.created fun m v => { m with created := v },
    .text "custom_filters" Merchant.customFilters fun m v => { m with customFilters := v },
    .text "fixed_events" Merchant.fixedEvents fun m v => { m with fixedEvents := v },
    .identifier "id" Merchant.id fun m v => { m with id := v },
    .text "legal_representative" Merchant.legalRepresentative
      fun m v => { m with legalRepresentative := v },
    .entity "owner" Merchant.owner fun m v => { m with owner := v },
    .text "special_time_periods" Merchant.specialTimePeriods
      fun m v => { m with specialTimePeriods := v },
    .text "terminal_type" Merchant.terminalType fun m v => { m with terminalType := v },
    .text "title" Merchant.title fun m v => { m with title := v },
    .text "traffic_conditions" Merchant.trafficConditions
      fun m v => { m with trafficConditions := v },
    .instant "updated" Merchant.updated fun m v => { m with updated := v },
    .text "valid_time" Merchant.validTime fun m v => { m with validTime := v } ]

instance : Entity Merchant where
  name := "merchant"
  blank := blank
  fields := fields
  layout := ["id", "title", "legal_representative", "business_address", "business_district",
    "valid_time", "traffic_conditions", "fixed_events", "terminal_type", "special_time_periods",
    "custom_filters", "owner", "created", "updated"]
  dates := ["created", "updated"]
  relations := [.to User "owner"]
  id := Merchant.id

end Merchant

end MerchantApi
