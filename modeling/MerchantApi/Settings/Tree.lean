import MerchantApi.Json.Basic
import MerchantApi.Settings.Real
import MerchantApi.Text.Lowercase
import MerchantApi.Text.Quoted
import MerchantApi.Text.Space
/-!
# Settings as their sources give them

A tree of values without types of their own.  Sources are laid over each other:
a later value replaces an earlier one, and tables are merged member by member.
Names are kept in lower case, but for those inside of lists.  Every value keeps
the source it came from.
-/

namespace MerchantApi.Settings

inductive Scalar where
  | null
  | flag (value : Bool)
  | int (value : Int64)
  | real (value : Real)
  | text (value : String)
deriving DecidableEq

/-- A value and the source it came from, if it came from one as a whole. -/
inductive Tree where
  | scalar (origin : Option String) (value : Scalar)
  | list (origin : Option String) (items : List Tree)
  | table (origin : Option String) (members : List (String × Tree))

namespace Tree

def ofMembers (members : Members Tree) : Tree := .table none members

def origin : Tree → Option String
  | .scalar o _ => o
  | .list o _ => o
  | .table o _ => o

def members : Tree → Members Tree
  | .table _ ms => ms
  | _ => []

def items : Tree → List Tree
  | .list _ xs => xs
  | _ => []

def get? (t : Tree) (name : String) : Option Tree := Members.get? t.members name

/-- Put a value under a name.  What is not a table becomes one. -/
def put (t : Tree) (name : String) (value : Tree) : Tree :=
  match t with
  | .table o ms => .table o (Members.insert name value ms)
  | _ => ofMembers (Members.insert name value [])

/-- Put a value at a position.  What is not a list becomes one, and a list that
is too short is filled up. -/
def putAt (t : Tree) (index : Nat) (value : Tree) : Tree :=
  let (o, xs) := match t with
    | .list o xs => (o, xs)
    | _ => (none, [])
  .list o ((xs ++ List.replicate (index + 1 - xs.length) (scalar none .null)).set index value)

mutual

def overlay (old : Option Tree) : Tree → Tree
  | .table _ ms => overlayMembers (old.getD (ofMembers [])) ms
  | value => value

/-- Lay members over a value, which becomes a table if there are any. -/
def overlayMembers (target : Tree) : List (String × Tree) → Tree
  | [] => target
  | (name, value) :: rest =>
    let key := Text.lower name
    overlayMembers (target.put key (overlay (target.get? key) value)) rest

end

/-! ### Places -/

/-- A step into a value.  Items are counted from zero, or from the end backwards
with a minus sign. -/
inductive Step where
  | member (name : String)
  | item (index : Int)
deriving DecidableEq

def position (index : Int) (length : Nat) : Nat :=
  if 0 ≤ index then index.toNat else length - index.natAbs

/-- Give a value the place at the end of some steps.  What is on the way becomes
a table or a list as far as the steps need it.  A member is laid over what was
there, and an item replaces it. -/
def assign (value : Tree) : List Step → Option Tree → Tree
  | [], _ => value
  | [.member name], old =>
    let target := old.getD (ofMembers [])
    let key := Text.lower name
    target.put key (overlay (target.get? key) value)
  | .member name :: steps, old =>
    let target := old.getD (ofMembers [])
    let key := Text.lower name
    target.put key (assign value steps (target.get? key))
  | .item index :: steps, old =>
    let target := old.getD (ofMembers [])
    let xs := target.items
    let i := position index xs.length
    target.putAt i (assign value steps xs[i]?)

def isNameChar (c : Char) : Bool := c.isAlphanum || c = ' ' || c = '_' || c = '-'

def index? (cs : List Char) : Option Int :=
  let blank (c : Char) : Bool := c = ' ' || c = '\t'
  let inner := Text.strip blank cs
  let (minus, digits) := match inner with
    | '-' :: rest => (true, rest)
    | _ => (false, inner)
  if digits.isEmpty ∨ ¬digits.all Char.isDigit then none
  else
    let n : Int := Nat.ofDigitChars 10 digits 0
    let index := if minus then -n else n
    if -0x8000000000000000 ≤ index ∧ index < 0x8000000000000000 then some index else none

def laterSteps? : (fuel : Nat) → List Char → Option (List Step)
  | _, [] => some []
  | 0, _ => none
  | fuel + 1, '.' :: cs => do
    let name := cs.takeWhile isNameChar
    guard (!name.isEmpty)
    return .member (String.ofList name) :: (← laterSteps? fuel (cs.dropWhile isNameChar))
  | fuel + 1, '[' :: cs => do
    let index ← index? (cs.takeWhile (· ≠ ']'))
    match cs.dropWhile (· ≠ ']') with
    | _ :: rest => return .item index :: (← laterSteps? fuel rest)
    | [] => none
  | _, _ => none

/-- The place that a text names: a name, then members behind points and items in
brackets.  A text of another form is a name as a whole. -/
def place (text : String) : List Step :=
  let cs := text.toList
  let name := cs.takeWhile isNameChar
  let steps :=
    if name.isEmpty then none else laterSteps? cs.length (cs.dropWhile isNameChar)
  match steps with
  | some steps => .member (String.ofList name) :: steps
  | none => [.member text]

def assignAll (tree : Tree) (entries : List (String × Tree)) : Tree :=
  entries.foldl (fun t entry => assign entry.2 (place entry.1) (some t)) tree

/-! ### Texts -/

def integerText (n : Int64) : String := String.ofList (WideInt.ofInt64 n).chars

def describe : Tree → String
  | .scalar _ .null => "unit value"
  | .scalar _ (.flag b) => if b then "boolean `true`" else "boolean `false`"
  | .scalar _ (.int n) => "64-bit integer `" ++ integerText n ++ "`"
  | .scalar _ (.real x) => "floating point `" ++ x.text ++ "`"
  | .scalar _ (.text s) => "string " ++ Text.quoted s
  | .list .. => "sequence"
  | .table .. => "map"

def outline : Tree → String
  | .scalar _ (.int n) => "integer `" ++ integerText n ++ "`"
  | .scalar _ (.real x) => "floating point `" ++ x.pointedText ++ "`"
  | value => value.describe

end Tree

end MerchantApi.Settings
