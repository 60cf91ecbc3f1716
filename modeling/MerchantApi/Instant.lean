import MerchantApi.Calendar
/-!
# Instants

A moment of universal time, to the nanosecond, in the years from -262143 to
262142.  A leap second is the second before it with a thousand million
nanoseconds or more.
-/

namespace MerchantApi

structure Instant where
  seconds : Int
  nanos : Nat
  lower : -8334601228800 ≤ seconds
  upper : seconds ≤ 8210266876799
  nanos_lt : nanos < 2000000000
  leap_last : 1000000000 ≤ nanos → seconds % 60 = 59
deriving DecidableEq

namespace Instant

def ofSeconds? (seconds : Int) (nanos : Nat) : Option Instant :=
  if h : -8334601228800 ≤ seconds ∧ seconds ≤ 8210266876799 ∧ nanos < 2000000000 ∧
      (1000000000 ≤ nanos → seconds % 60 = 59) then
    some ⟨seconds, nanos, h.1, h.2.1, h.2.2.1, h.2.2.2⟩
  else none

def ofMillis? (millis : Int) : Option Instant :=
  ofSeconds? (millis / 1000) ((millis % 1000).toNat * 1000000)

def millis (t : Instant) : Int :=
  t.seconds * 1000 + (t.nanos / 1000000 : Nat)

def date (t : Instant) : Calendar.Date := .ofDays (t.seconds / 86400)

def secondOfDay (t : Instant) : Nat := (t.seconds % 86400).toNat

end Instant

end MerchantApi
