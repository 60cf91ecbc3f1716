import MerchantApi.Json.Mismatch
import MerchantApi.Text.Hex
import MerchantApi.Text.Utf16
/-!
# Reading JSON text

A reader takes the characters that are left and returns what it read with the
rest.  A failure keeps the rest at the place where it arose, from which line
and column follow; columns count bytes of UTF-8.  Arrays and objects nest to a
depth of 127.
-/

namespace MerchantApi.Json

namespace Reader

inductive Problem where
  | endOfList
  | endOfObject
  | endOfString
  | endOfValue
  | expectedColon
  | expectedListCommaOrEnd
  | expectedObjectCommaOrEnd
  | expectedIdent
  | expectedValue
  | invalidEscape
  | invalidNumber
  | numberOutOfRange
  | invalidCodePoint
  | controlCharacter
  | keyNotString
  | loneSurrogate
  | brokenSurrogatePair
  | trailingComma
  | trailingCharacters
  | tooDeep
  | mismatch (cause : Mismatch)

def Problem.message : Problem → String
  | .endOfList => "EOF while parsing a list"
  | .endOfObject => "EOF while parsing an object"
  | .endOfString => "EOF while parsing a string"
  | .endOfValue => "EOF while parsing a value"
  | .expectedColon => "expected `:`"
  | .expectedListCommaOrEnd => "expected `,` or `]`"
  | .expectedObjectCommaOrEnd => "expected `,` or `\x7d`"
  | .expectedIdent => "expected ident"
  | .expectedValue => "expected value"
  | .invalidEscape => "invalid escape"
  | .invalidNumber => "invalid number"
  | .numberOutOfRange => "number out of range"
  | .invalidCodePoint => "invalid unicode code point"
  | .controlCharacter => "control character (\\u0000-\\u001F) found while parsing a string"
  | .keyNotString => "key must be a string"
  | .loneSurrogate => "lone leading surrogate in hex escape"
  | .brokenSurrogatePair => "unexpected end of hex escape"
  | .trailingComma => "trailing comma"
  | .trailingCharacters => "trailing characters"
  | .tooDeep => "recursion limit exceeded"
  | .mismatch cause => cause.message

/-- A problem and its place: so many bytes into the rest. -/
structure Failure where
  problem : Problem
  rest : List Char
  ahead : Nat

abbrev Reading (α : Type) := Except Failure (α × List Char)

def failHere {α : Type} (problem : Problem) (rest : List Char) : Except Failure α :=
  .error ⟨problem, rest, 0⟩

def failNext {α : Type} (problem : Problem) (rest : List Char) : Except Failure α :=
  .error ⟨problem, rest, 1⟩

def isSpace (c : Char) : Bool := c = ' ' || c = '\n' || c = '\t' || c = '\r'

def skipSpace (cs : List Char) : List Char := cs.dropWhile isSpace

def ident : (expected : List Char) → List Char → Except Failure (List Char)
  | [], cs => .ok cs
  | _ :: _, [] => failHere .endOfValue []
  | e :: expected, c :: cs =>
    if c = e then ident expected cs else failNext .expectedIdent (c :: cs)

/-! ### Numbers -/

def digitValue (c : Char) : Nat := c.toNat - 48

def absorb (value : Nat) : List Char → Nat × List Char
  | [] => (value, [])
  | c :: cs =>
    if c.isDigit && value * 10 + digitValue c < UInt64.size then
      absorb (value * 10 + digitValue c) cs
    else (value, c :: cs)

def realOf (negative : Bool) (digits : Nat) (power : Int) (cs : List Char) : Reading Number :=
  match Binary64.ofDecimal negative digits power with
  | some x => .ok (.real x, cs)
  | none => failHere .numberOutOfRange cs

/-- The digits of an exponent.  One that exceeds 31 bits makes the number zero,
or too large. -/
def exponentDigits (negative : Bool) (digits : Nat) (power : Int) (minus : Bool) (e : Nat) :
    List Char → Reading Number
  | [] => realOf negative digits (if minus then power - e else power + e) []
  | c :: cs =>
    if c.isDigit then
      if e * 10 + digitValue c < UInt32.size / 2 then
        exponentDigits negative digits power minus (e * 10 + digitValue c) cs
      else if digits ≠ 0 ∧ !minus then failHere .numberOutOfRange cs
      else .ok (.real (.zero negative), cs.dropWhile Char.isDigit)
    else realOf negative digits (if minus then power - e else power + e) (c :: cs)

def exponentPart (negative : Bool) (digits : Nat) (power : Int) (cs : List Char) :
    Reading Number :=
  let (minus, cs) := match cs with
    | '+' :: rest => (false, rest)
    | '-' :: rest => (true, rest)
    | _ => (false, cs)
  match cs with
  | [] => failHere .endOfValue []
  | c :: rest =>
    if c.isDigit then exponentDigits negative digits power minus (digitValue c) rest
    else failNext .invalidNumber (c :: rest)

def opensExponent (c : Char) : Bool := c = 'e' || c = 'E'

def fractionEnd (negative : Bool) (digits : Nat) (power : Int) (cs : List Char) :
    Reading Number :=
  match cs with
  | c :: rest =>
    if opensExponent c then exponentPart negative digits power rest
    else realOf negative digits power cs
  | [] => realOf negative digits power cs

/-- What follows the point of a fraction.  Digits that do not fit into 64 bits
are dropped. -/
def fractionPart (negative : Bool) (digits : Nat) (power : Int) (cs : List Char) :
    Reading Number :=
  let (digits, rest) := absorb digits cs
  let count := cs.length - rest.length
  let after := rest.dropWhile Char.isDigit
  if count = 0 ∧ after.length = rest.length then
    failNext (if cs.isEmpty then .endOfValue else .invalidNumber) cs
  else fractionEnd negative digits (power - count) after

/-- A number whose sign was read.  Digits beyond 64 bits count as zeros. -/
def number (negative : Bool) (cs : List Char) : Reading Number :=
  match cs with
  | [] => failHere .endOfValue []
  | c :: rest =>
    if !c.isDigit then failNext .invalidNumber cs
    else if c = '0' ∧ (rest.head?.any Char.isDigit) then failNext .invalidNumber rest
    else
      let (digits, rest) := absorb (digitValue c) rest
      let after := rest.dropWhile Char.isDigit
      let dropped := rest.length - after.length
      match after with
      | '.' :: rest => fractionPart negative digits dropped rest
      | _ =>
        match after with
        | d :: rest =>
          if opensExponent d then exponentPart negative digits dropped rest
          else whole digits dropped after
        | [] => whole digits dropped after
where
  /-- A number without point and exponent. -/
  whole (digits dropped : Nat) (cs : List Char) : Reading Number :=
    let value : Int := if negative then -digits else digits
    if dropped = 0 ∧ !(negative ∧ digits = 0) then
      match WideInt.ofInt? value with
      | some n => .ok (.int n, cs)
      | none => realOf negative digits dropped cs
    else realOf negative digits dropped cs

/-! ### Strings -/

def hex4? (a b c d : Char) : Option Nat := do
  return (((← Text.hexValue? a) * 16 + (← Text.hexValue? b)) * 16 + (← Text.hexValue? c)) * 16 +
    (← Text.hexValue? d)

def byteLength : List Char → Nat
  | [] => 0
  | c :: cs => c.utf8Size + byteLength cs

def hexFailure {α : Type} (cs : List Char) : Except Failure α :=
  if byteLength cs < 4 then failHere .endOfString [] else .error ⟨.invalidEscape, cs, 4⟩

def escaped? (c : Char) : Option Char :=
  if c = '"' then some '"'
  else if c = '\\' then some '\\'
  else if c = '/' then some '/'
  else if c = 'b' then some (Char.ofNat 8)
  else if c = 'f' then some (Char.ofNat 12)
  else if c = 'n' then some '\n'
  else if c = 'r' then some '\r'
  else if c = 't' then some '\t'
  else none

/-- Where the second half of a surrogate pair should stand and does not. -/
def pairFailure {α : Type} : List Char → Except Failure α
  | [] => failHere .endOfString []
  | '\\' :: [] => failHere .endOfString []
  | '\\' :: 'u' :: rest => hexFailure rest
  | '\\' :: rest => failNext .brokenSurrogatePair rest
  | rest => failNext .brokenSurrogatePair rest

/-- A string whose opening quote was read, after the characters `acc` in
reverse. -/
def stringBody (acc : List Char) : List Char → Reading String
  | [] => failHere .endOfString []
  | '"' :: rest => .ok (String.ofList acc.reverse, rest)
  | '\\' :: 'u' :: a :: b :: c :: d :: rest =>
    match hex4? a b c d with
    | none => hexFailure (a :: b :: c :: d :: rest)
    | some n =>
      if Text.closesPair n then failHere .loneSurrogate rest
      else if Text.opensPair n then
        match rest with
        | '\\' :: 'u' :: e :: f :: g :: h :: rest =>
          match hex4? e f g h with
          | none => hexFailure (e :: f :: g :: h :: rest)
          | some m =>
            if Text.closesPair m then stringBody (Text.joinPair n m :: acc) rest
            else failHere .loneSurrogate rest
        | rest => pairFailure rest
      else stringBody (Char.ofNat n :: acc) rest
  | '\\' :: 'u' :: rest => hexFailure rest
  | '\\' :: e :: rest =>
    match escaped? e with
    | some c => stringBody (c :: acc) rest
    | none => failNext .invalidEscape (e :: rest)
  | '\\' :: [] => failHere .endOfString []
  | c :: rest =>
    if c.toNat < 32 then failNext .controlCharacter (c :: rest) else stringBody (c :: acc) rest

/-! ### Arrays and objects -/

variable {α : Type}

def nextItem (first : Bool) (cs : List Char) : Except Failure (Option (List Char)) :=
  match skipSpace cs with
  | [] => failNext .endOfList []
  | c :: rest =>
    if c = ']' then .ok none
    else if first then .ok (some (c :: rest))
    else if c = ',' then
      match skipSpace rest with
      | [] => failNext .endOfValue []
      | d :: rest =>
        if d = ']' then failNext .trailingComma (d :: rest) else .ok (some (d :: rest))
    else failNext .expectedListCommaOrEnd (c :: rest)

/-- The items of an array whose bracket was read.  `fuel` bounds their number. -/
def items (item : List Char → Reading α) :
    (fuel : Nat) → (first : Bool) → List Char → Reading (List α)
  | 0, _, cs => failNext .endOfList cs
  | fuel + 1, first, cs =>
    match nextItem first cs with
    | .error f => .error f
    | .ok none => .ok ([], (skipSpace cs).tail)
    | .ok (some cs) =>
      match item cs with
      | .error f => .error f
      | .ok (x, cs) =>
        match items item fuel false cs with
        | .error f => .error f
        | .ok (xs, cs) => .ok (x :: xs, cs)

def colon (cs : List Char) : Except Failure (List Char) :=
  match skipSpace cs with
  | [] => failNext .endOfObject []
  | c :: rest => if c = ':' then .ok rest else failNext .expectedColon (c :: rest)

def nextName (first : Bool) (cs : List Char) : Except Failure (Option (List Char)) :=
  match skipSpace cs with
  | [] => failNext .endOfObject []
  | c :: rest =>
    if c = '}' then .ok none
    else if first then
      if c = '"' then .ok (some rest) else failNext .keyNotString (c :: rest)
    else if c = ',' then
      match skipSpace rest with
      | [] => failNext .endOfValue []
      | d :: rest =>
        if d = '"' then .ok (some rest)
        else if d = '}' then failNext .trailingComma (d :: rest)
        else failNext .keyNotString (d :: rest)
    else failNext .expectedObjectCommaOrEnd (c :: rest)

def members (value : List Char → Reading α) :
    (fuel : Nat) → (first : Bool) → List Char → Reading (List (String × α))
  | 0, _, cs => failNext .endOfObject cs
  | fuel + 1, first, cs =>
    match nextName first cs with
    | .error f => .error f
    | .ok none => .ok ([], (skipSpace cs).tail)
    | .ok (some cs) =>
      match stringBody [] cs with
      | .error f => .error f
      | .ok (name, cs) =>
        match colon cs with
        | .error f => .error f
        | .ok cs =>
          match value cs with
          | .error f => .error f
          | .ok (x, cs) =>
            match members value fuel false cs with
            | .error f => .error f
            | .ok (xs, cs) => .ok ((name, x) :: xs, cs)

/-- A value, with so many levels of nesting left. -/
def value : (depth : Nat) → List Char → Reading Json
  | depth, cs =>
    match skipSpace cs with
    | [] => failNext .endOfValue []
    | c :: rest =>
      if c = 'n' then (ident ['u', 'l', 'l'] rest).map (.null, ·)
      else if c = 't' then (ident ['r', 'u', 'e'] rest).map (.bool true, ·)
      else if c = 'f' then (ident ['a', 'l', 's', 'e'] rest).map (.bool false, ·)
      else if c = '-' then (number true rest).map fun (n, cs) => (.number n, cs)
      else if c.isDigit then (number false (c :: rest)).map fun (n, cs) => (.number n, cs)
      else if c = '"' then (stringBody [] rest).map fun (s, cs) => (.string s, cs)
      else if c = '[' then
        match depth with
        | 0 => failNext .tooDeep (c :: rest)
        | depth + 1 =>
          (items (value depth) (rest.length + 1) true rest).map fun (xs, cs) => (.array xs, cs)
      else if c = '{' then
        match depth with
        | 0 => failNext .tooDeep (c :: rest)
        | depth + 1 =>
          (members (value depth) (rest.length + 1) true rest).map fun (xs, cs) =>
            (.object (Members.ofList xs), cs)
      else failNext .expectedValue (c :: rest)

def maxDepth : Nat := 127

def finish (result : Reading α) : Except Failure α :=
  match result with
  | .error f => .error f
  | .ok (x, cs) =>
    match skipSpace cs with
    | [] => .ok x
    | rest => failNext .trailingCharacters rest

/-! ### Places in a text -/

def locate (line column : Nat) : (bytes : Nat) → List Char → Nat × Nat
  | _, [] => (line, column)
  | bytes, c :: cs =>
    if bytes < c.utf8Size then (line, column + bytes)
    else if c = '\n' then locate (line + 1) 0 (bytes - 1) cs
    else locate line (column + c.utf8Size) (bytes - c.utf8Size) cs

structure ParseError where
  problem : Problem
  line : Nat
  column : Nat

def ParseError.message (e : ParseError) : String :=
  e.problem.message ++ " at line " ++ toString e.line ++ " column " ++ toString e.column

def Failure.place (f : Failure) (text : List Char) : ParseError :=
  let bytes := byteLength text - byteLength f.rest + f.ahead
  let (line, column) := locate 1 0 bytes text
  ⟨f.problem, line, column⟩

def readAll (reader : List Char → Reading α) (text : String) : Except ParseError α :=
  match finish (reader text.toList) with
  | .ok x => .ok x
  | .error f => .error (f.place text.toList)

end Reader

def parse (text : String) : Except Reader.ParseError Json :=
  Reader.readAll (Reader.value Reader.maxDepth) text

end MerchantApi.Json
