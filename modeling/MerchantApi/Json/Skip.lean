import MerchantApi.Json.Reader
/-!
# Values passed over in a text

A member that a record does not declare is checked for its syntax and
forgotten.  Its nesting is not limited, its numbers may be of any size and its
strings may hold halves of surrogate pairs.
-/

namespace MerchantApi.Json.Reader

inductive Bracket where
  | square
  | curly
deriving DecidableEq

def skipExponent (cs : List Char) : Except Failure (List Char) :=
  let cs := match cs with
    | '+' :: rest => rest
    | '-' :: rest => rest
    | _ => cs
  match cs with
  | [] => failHere .invalidNumber []
  | c :: rest =>
    if c.isDigit then .ok (rest.dropWhile Char.isDigit) else failNext .invalidNumber (c :: rest)

def skipFraction (cs : List Char) : Except Failure (List Char) :=
  match cs with
  | [] => .ok []
  | c :: rest =>
    if c = '.' then
      let after := rest.dropWhile Char.isDigit
      if after.length = rest.length then failNext .invalidNumber rest
      else
        match after with
        | [] => .ok []
        | d :: more => if opensExponent d then skipExponent more else .ok after
    else if opensExponent c then skipExponent rest
    else .ok cs

def skipNumber (cs : List Char) : Except Failure (List Char) :=
  match cs with
  | [] => failHere .invalidNumber []
  | c :: rest =>
    if !c.isDigit then failNext .invalidNumber cs
    else if c = '0' then
      if rest.head?.any Char.isDigit then failNext .invalidNumber rest else skipFraction rest
    else skipFraction (rest.dropWhile Char.isDigit)

def skipString : List Char → Except Failure (List Char)
  | [] => failHere .endOfString []
  | '"' :: rest => .ok rest
  | '\\' :: 'u' :: a :: b :: c :: d :: rest =>
    match hex4? a b c d with
    | none => hexFailure (a :: b :: c :: d :: rest)
    | some _ => skipString rest
  | '\\' :: 'u' :: rest => hexFailure rest
  | '\\' :: e :: rest =>
    match escaped? e with
    | some _ => skipString rest
    | none => failNext .invalidEscape (e :: rest)
  | '\\' :: [] => failHere .endOfString []
  | c :: rest => if c.toNat < 32 then failHere .controlCharacter (c :: rest) else skipString rest

def skipName (cs : List Char) : Except Failure (List Char) :=
  match skipSpace cs with
  | [] => failNext .endOfObject []
  | c :: rest =>
    if c = '"' then
      match skipString rest with
      | .error f => .error f
      | .ok rest => colon rest
    else failNext .keyNotString (c :: rest)

def skipScalar? (c : Char) (rest : List Char) : Option (Except Failure (List Char)) :=
  if c = 'n' then some (ident ['u', 'l', 'l'] rest)
  else if c = 't' then some (ident ['r', 'u', 'e'] rest)
  else if c = 'f' then some (ident ['a', 'l', 's', 'e'] rest)
  else if c = '-' then some (skipNumber rest)
  else if c.isDigit then some (skipNumber (c :: rest))
  else if c = '"' then some (skipString rest)
  else if c = '[' ∨ c = '{' then none
  else some (failNext .expectedValue (c :: rest))

inductive Expecting where
  | value
  | next (comma : Bool)

/-- Pass over a value inside the open brackets.  `fuel` bounds the tokens. -/
def skipLoop : (fuel : Nat) → Expecting → List Bracket → List Char → Except Failure (List Char)
  | 0, _, _, cs => failNext .expectedValue cs
  | fuel + 1, .value, opened, cs =>
    match skipSpace cs with
    | [] => failNext .endOfValue []
    | c :: rest =>
      match skipScalar? c rest with
      | some (.error f) => .error f
      | some (.ok rest) => skipLoop fuel (.next true) opened rest
      | none =>
        skipLoop fuel (.next false) ((if c = '[' then .square else .curly) :: opened) rest
  | _ + 1, .next _, [], cs => .ok cs
  | fuel + 1, .next comma, bracket :: outer, cs =>
    match skipSpace cs with
    | [] => failNext (if bracket = .square then .endOfList else .endOfObject) []
    | c :: rest =>
      if c = (if bracket = .square then ']' else '}') then
        skipLoop fuel (.next true) outer rest
      else if comma ∧ c ≠ ',' then
        failNext (if bracket = .square then .expectedListCommaOrEnd else .expectedObjectCommaOrEnd)
          (c :: rest)
      else
        let cs := if comma then rest else c :: rest
        if bracket = .square then skipLoop fuel .value (bracket :: outer) cs
        else
          match skipName cs with
          | .error f => .error f
          | .ok cs => skipLoop fuel .value (bracket :: outer) cs

def skipValue (cs : List Char) : Except Failure (List Char) :=
  skipLoop (2 * cs.length + 2) .value [] cs

end MerchantApi.Json.Reader
