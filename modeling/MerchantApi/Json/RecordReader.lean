import MerchantApi.Json.Record
import MerchantApi.Json.Skip
/-!
# Records read from JSON text

A record is checked while its text is read, so that the first fault in the
order of the text is the one reported, be it of syntax or of type.
-/

namespace MerchantApi.Json.Reader

variable {α σ : Type}

/-- A value that stands where another type is expected.  A scalar is read
first, and a fault in it comes before the mismatch. -/
def unexpected (expected : String) (cs : List Char) : Except Failure α :=
  match skipSpace cs with
  | [] => failNext .endOfValue []
  | c :: rest =>
    if c = '[' then failHere (.mismatch (.wrongType (.array []) expected)) (c :: rest)
    else if c = '{' then failHere (.mismatch (.wrongType (.object []) expected)) (c :: rest)
    else
      match value 0 (c :: rest) with
      | .error f => .error f
      | .ok (found, cs) => failHere (.mismatch (.wrongType found expected)) cs

def text (cs : List Char) : Reading String :=
  match skipSpace cs with
  | '"' :: rest => stringBody [] rest
  | _ => unexpected "a string" cs

def int64 (cs : List Char) : Reading Int64 :=
  match skipSpace cs with
  | [] => failNext .endOfValue []
  | c :: rest =>
    if c = '-' ∨ c.isDigit then
      match if c = '-' then number true rest else number false (c :: rest) with
      | .error f => .error f
      | .ok (n, cs) =>
        match asInt64 (.number n) with
        | .ok v => .ok (v, cs)
        | .error m => failHere (.mismatch m) cs
    else unexpected "i64" cs

def list (item : (depth : Nat) → List Char → Reading α) (depth : Nat) (cs : List Char) :
    Reading (List α) :=
  match skipSpace cs with
  | '[' :: rest =>
    match depth with
    | 0 => failNext .tooDeep ('[' :: rest)
    | depth + 1 => items (item depth) (rest.length + 1) true rest
  | _ => unexpected "a sequence" cs

structure TextSlot (σ : Type) where
  name : String
  filled : σ → Bool
  read : (depth : Nat) → List Char → σ → Reading σ

def pastClose (bracket : Char) (cs : List Char) : List Char :=
  match skipSpace cs with
  | [] => []
  | c :: rest => if c = bracket then rest else c :: rest

def slotMembers (slots : List (TextSlot σ)) (depth : Nat) :
    (fuel : Nat) → (first : Bool) → List Char → σ → Reading σ
  | 0, _, cs, _ => failNext .endOfObject cs
  | fuel + 1, first, cs, state =>
    match nextName first cs with
    | .error f => .error f
    | .ok none =>
      match slots.find? fun slot => !slot.filled state with
      | some slot => failHere (.mismatch (.missing slot.name)) (skipSpace cs).tail
      | none => .ok (state, (skipSpace cs).tail)
    | .ok (some cs) =>
      match stringBody [] cs with
      | .error f => .error f
      | .ok (name, cs) =>
        match slots.find? fun slot => slot.name = name with
        | none =>
          match (colon cs).bind skipValue with
          | .error f => .error f
          | .ok cs => slotMembers slots depth fuel false cs state
        | some slot =>
          if slot.filled state then
            failHere (.mismatch (.repeated name)) (pastClose '}' cs)
          else
            match (colon cs).bind fun cs => slot.read depth cs state with
            | .error f => .error f
            | .ok (state, cs) => slotMembers slots depth fuel false cs state

def closeList (cs : List Char) : Except Failure (List Char) :=
  match skipSpace cs with
  | [] => failNext .endOfList []
  | c :: rest =>
    if c = ']' then .ok rest
    else if c = ',' then
      match skipSpace rest with
      | ']' :: rest => failNext .trailingComma (']' :: rest)
      | rest => failNext .trailingCharacters rest
    else failNext .trailingCharacters (c :: rest)

def slotItems (arity : String) (depth : Nat) :
    (index : Nat) → List (TextSlot σ) → List Char → σ → Reading σ
  | _, [], cs, state => (closeList cs).map (state, ·)
  | index, slot :: slots, cs, state =>
    match nextItem (index = 0) cs with
    | .error f => .error f
    | .ok none => failHere (.mismatch (.wrongLength index arity)) (pastClose ']' cs)
    | .ok (some cs) =>
      match slot.read depth cs state with
      | .error f => .error f
      | .ok (state, cs) => slotItems arity depth (index + 1) slots cs state

def record (title arity : String) (slots : List (TextSlot σ)) (empty : σ) (depth : Nat)
    (cs : List Char) : Reading σ :=
  match skipSpace cs with
  | [] => failNext .endOfValue []
  | c :: rest =>
    if c = '{' then
      match depth with
      | 0 => failNext .tooDeep (c :: rest)
      | depth + 1 => slotMembers slots depth (rest.length + 1) true rest empty
    else if c = '[' then
      match depth with
      | 0 => failNext .tooDeep (c :: rest)
      | depth + 1 => slotItems arity depth 0 slots rest empty
    else unexpected title cs

end MerchantApi.Json.Reader
