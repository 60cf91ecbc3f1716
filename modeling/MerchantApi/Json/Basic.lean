import MerchantApi.Binary64.Shortest
import MerchantApi.Members
/-!
# JSON values

Values as they are exchanged with the server.  A number is an integer of 64
bits, signed or not, or a finite double; the three kinds never compare equal.
Members of an object are kept in increasing order of their names.
-/

namespace MerchantApi

/-- The integers that a JSON number holds exactly: those of 64 bits, with or
without a sign. -/
structure WideInt where
  val : Int
  lower : -0x8000000000000000 ≤ val
  upper : val < 0x10000000000000000
deriving DecidableEq

namespace WideInt

def ofInt? (n : Int) : Option WideInt :=
  if h : -0x8000000000000000 ≤ n ∧ n < 0x10000000000000000 then some ⟨n, h.1, h.2⟩ else none

def ofUInt64 (n : UInt64) : WideInt :=
  ⟨n.toNat, by omega, by have := n.toNat_lt; omega⟩

def ofInt64 (n : Int64) : WideInt :=
  ⟨n.toInt, by have := n.le_toInt; omega, by have := n.toInt_lt; omega⟩

def toUInt64? (n : WideInt) : Option UInt64 :=
  if 0 ≤ n.val then some (UInt64.ofNat n.val.toNat) else none

def toInt64? (n : WideInt) : Option Int64 :=
  if n.val < 0x8000000000000000 then some (Int64.ofInt n.val) else none

def chars (n : WideInt) : List Char :=
  if n.val < 0 then '-' :: Nat.toDigits 10 n.val.natAbs else Nat.toDigits 10 n.val.natAbs

end WideInt

namespace Json

inductive Number where
  | int (value : WideInt)
  | real (value : Binary64)
deriving DecidableEq

def Number.chars : Number → List Char
  | .int n => n.chars
  | .real x => x.chars

def Number.text (n : Number) : String := String.ofList n.chars

def Number.isZero : Number → Bool
  | .int n => n.val = 0
  | .real x => x.isZero

end Json

inductive Json where
  | null
  | bool (value : Bool)
  | number (value : Json.Number)
  | string (value : String)
  | array (items : List Json)
  | object (members : List (String × Json))

namespace Json

def ofUInt64 (n : UInt64) : Json := .number (.int (.ofUInt64 n))

def ofInt64 (n : Int64) : Json := .number (.int (.ofInt64 n))

mutual

def same : Json → Json → Bool
  | .null, .null => true
  | .bool a, .bool b => a == b
  | .number a, .number b => decide (a = b)
  | .string a, .string b => decide (a = b)
  | .array a, .array b => sameItems a b
  | .object a, .object b => sameMembers a b
  | _, _ => false

def sameItems : List Json → List Json → Bool
  | [], [] => true
  | x :: xs, y :: ys => same x y && sameItems xs ys
  | _, _ => false

def sameMembers : List (String × Json) → List (String × Json) → Bool
  | [], [] => true
  | (n, x) :: xs, (m, y) :: ys => decide (n = m) && same x y && sameMembers xs ys
  | _, _ => false

end

mutual

theorem same_self : (x : Json) → same x x = true
  | .null => rfl
  | .bool _ => by simp [same]
  | .number _ => by simp [same]
  | .string _ => by simp [same]
  | .array xs => by simp [same, sameItems_self xs]
  | .object xs => by simp [same, sameMembers_self xs]

theorem sameItems_self : (xs : List Json) → sameItems xs xs = true
  | [] => rfl
  | x :: xs => by simp [sameItems, same_self x, sameItems_self xs]

theorem sameMembers_self : (xs : List (String × Json)) → sameMembers xs xs = true
  | [] => rfl
  | (n, x) :: xs => by simp [sameMembers, same_self x, sameMembers_self xs]

end

mutual

theorem eq_of_same : (x y : Json) → same x y = true → x = y
  | .null, y => by cases y <;> simp [same]
  | .bool _, y => by cases y <;> simp [same]
  | .number _, y => by cases y <;> simp [same]
  | .string _, y => by cases y <;> simp [same]
  | .array xs, y => by
    cases y <;> simp only [same, Bool.false_eq_true, false_implies, array.injEq]
    exact eq_of_sameItems xs _
  | .object xs, y => by
    cases y <;> simp only [same, Bool.false_eq_true, false_implies, object.injEq]
    exact eq_of_sameMembers xs _

theorem eq_of_sameItems : (xs ys : List Json) → sameItems xs ys = true → xs = ys
  | [], ys => by cases ys <;> simp [sameItems]
  | x :: xs, ys => by
    cases ys with
    | nil => simp [sameItems]
    | cons y ys =>
      simp only [sameItems, Bool.and_eq_true, List.cons.injEq]
      exact fun h => ⟨eq_of_same x y h.1, eq_of_sameItems xs ys h.2⟩

theorem eq_of_sameMembers :
    (xs ys : List (String × Json)) → sameMembers xs ys = true → xs = ys
  | [], ys => by cases ys <;> simp [sameMembers]
  | (n, x) :: xs, ys => by
    cases ys with
    | nil => simp [sameMembers]
    | cons entry ys =>
      obtain ⟨m, y⟩ := entry
      simp only [sameMembers, Bool.and_eq_true, decide_eq_true_eq, List.cons.injEq,
        Prod.mk.injEq]
      exact fun h => ⟨⟨h.1.1, eq_of_same x y h.1.2⟩, eq_of_sameMembers xs ys h.2⟩

end

theorem same_iff_eq (x y : Json) : same x y = true ↔ x = y :=
  ⟨eq_of_same x y, fun h => h ▸ same_self x⟩

instance : DecidableEq Json := fun x y => decidable_of_iff _ (same_iff_eq x y)

def isNull : Json → Bool
  | .null => true
  | _ => false

theorem eq_null_of_isNull {j : Json} (h : j.isNull = true) : j = .null := by
  cases j <;> simp [isNull] at h ⊢

def kind : Json → String
  | .null => "null"
  | .bool _ => "a boolean"
  | .number _ => "a number"
  | .string _ => "a string"
  | .array _ => "an array"
  | .object _ => "an object"

/-- The text form of a scalar; nothing for null, arrays and objects. -/
def scalarText? : Json → Option String
  | .string s => some s
  | .number n => some n.text
  | .bool b => some (if b then "true" else "false")
  | _ => none

end Json

end MerchantApi
