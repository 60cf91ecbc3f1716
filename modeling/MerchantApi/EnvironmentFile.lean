import MerchantApi.Text.Alphanumeric
import MerchantApi.Text.Space
import MerchantApi.Text.Utf8
/-!
# Files of environment variables

A file of lines `NAME=value` gives variables that the environment does not have
yet.  A value may stand in quotes, reach over several lines in them, hold
escapes, and take in the values of other variables.  The first line that cannot
be read ends the file.
-/

namespace MerchantApi.EnvironmentFile

/-! ### Lines -/

/-- Where in a value a place is: between words, behind a backslash or in quotes. -/
inductive Quoting where
  | plain
  | blank
  | escape
  | weak
  | weakEscape
  | strong
  | strongEscape
deriving DecidableEq

def Quoting.opened (c : Char) : Quoting :=
  if c = '\\' then .escape
  else if c = '"' then .weak
  else if c = '\'' then .strong
  else .plain

def Quoting.next : Quoting → Char → Quoting
  | .plain, c =>
    if Text.isSpace c ∧ c ≠ '\n' ∧ c ≠ '\r' then .blank else Quoting.opened c
  | .blank, c => Quoting.opened c
  | .escape, _ => .plain
  | .weak, c => if c = '\\' then .weakEscape else if c = '"' then .plain else .weak
  | .weakEscape, _ => .weak
  | .strong, c => if c = '\\' then .strongEscape else if c = '\'' then .plain else .strong
  | .strongEscape, _ => .strong

def scanLine (q : Quoting) : List Char → List Char ⊕ Quoting
  | [] => .inr q
  | c :: cs =>
    if q = .blank ∧ c = '#' then .inl []
    else
      match scanLine (q.next c) cs with
      | .inl kept => .inl (c :: kept)
      | .inr q => .inr q

def physicalLines : List Char → List (List Char)
  | [] => []
  | c :: cs =>
    if c = '\n' then [c] :: physicalLines cs
    else
      match physicalLines cs with
      | line :: rest => (c :: line) :: rest
      | [] => [[c]]

def dropBreak (line : List Char) : List Char :=
  match line.reverse with
  | '\n' :: '\r' :: rest => rest.reverse
  | '\n' :: rest => rest.reverse
  | _ => line

/-- The lines of a file, joined where quotes reach over a line break.  Nothing
stands for a line that does not end. -/
def logicalLines (begun : List Char) (q : Quoting) : List (List Char) → List (Option (List Char))
  | [] => if q = .plain then [] else [none]
  | line :: rest =>
    let text := begun ++ line
    if (text.dropWhile Text.isSpace).head? = some '#' then some [] :: logicalLines [] .plain rest
    else
      match scanLine q line with
      | .inl kept => some (begun ++ kept) :: logicalLines [] .plain rest
      | .inr .plain => some (dropBreak text) :: logicalLines [] .plain rest
      | .inr q => logicalLines text q rest

/-! ### Values -/

inductive Naming where
  | none
  | bare
  | braced
deriving DecidableEq

structure Draft where
  quoting : Quoting
  naming : Naming
  name : List Char
  text : List Char

def Draft.substitute (d : Draft) (lookup : String → Option String) : Draft :=
  { d with
    naming := .none
    name := []
    text := d.text ++ ((lookup (String.ofList d.name)).getD "").toList }

def Draft.read (d : Draft) (lookup : String → Option String) (c : Char) : Draft :=
  match d.naming with
  | .none =>
    if c = '$' then { d with naming := .bare }
    else if d.quoting = .weak then
      if c = '"' then { d with quoting := .plain }
      else if c = '\\' then { d with quoting := .weakEscape }
      else { d with text := d.text ++ [c] }
    else if c = '\'' then { d with quoting := .strong }
    else if c = '"' then { d with quoting := .weak }
    else if c = '\\' then { d with quoting := .escape }
    else if c = ' ' ∨ c = '\t' then { d with quoting := .blank }
    else { d with text := d.text ++ [c] }
  | .bare =>
    if Text.isAlphanumeric c then { d with name := d.name ++ [c] }
    else if c = '{' ∧ d.name.isEmpty then { d with naming := .braced }
    else
      let d := d.substitute lookup
      if c = '$' then { d with naming := .bare } else { d with text := d.text ++ [c] }
  | .braced =>
    if c = '}' then d.substitute lookup else { d with name := d.name ++ [c] }

def escaped? (c : Char) : Option Char :=
  if c = '\\' ∨ c = '\'' ∨ c = '"' ∨ c = '$' ∨ c = ' ' then some c
  else if c = 'n' then some '\n'
  else none

def value? (lookup : String → Option String) : Draft → List Char → Option (List Char)
  | d, [] =>
    if d.naming = .braced ∨ d.quoting = .strong ∨ d.quoting = .weak ∨ d.quoting = .weakEscape
    then none
    else some (d.substitute lookup).text
  | d, c :: cs =>
    match d.quoting with
    | .blank =>
      if c = ' ' ∨ c = '\t' then value? lookup d cs
      else if c = '#' then value? lookup d []
      else none
    | .escape =>
      (escaped? c).bind fun e =>
        value? lookup { d with quoting := .plain, text := d.text ++ [e] } cs
    | .weakEscape =>
      (escaped? c).bind fun e => value? lookup { d with quoting := .weak, text := d.text ++ [e] } cs
    | .strong =>
      if c = '\'' then value? lookup { d with quoting := .plain } cs
      else value? lookup { d with text := d.text ++ [c] } cs
    | _ => value? lookup (d.read lookup c) cs

/-! ### Variables -/

def name? : List Char → Option (List Char × List Char)
  | [] => none
  | c :: cs =>
    let within (c : Char) : Bool := c.isAlphanum || c = '_' || c = '.'
    if c.isAlpha ∨ c = '_' then
      some (c :: cs.takeWhile within, (cs.dropWhile within).dropWhile Text.isSpace)
    else none

/-- The name of the variable that a line gives, and what stands behind its
equals sign.  The word `export` may stand before the name. -/
def assignment? (line : List Char) : Option (List Char × List Char) := do
  match ← name? line with
  | (name, '=' :: rest) => return (name, rest)
  | (name, rest) =>
    guard (name = "export".toList)
    match ← name? rest with
    | (name, '=' :: rest) => return (name, rest)
    | _ => none

abbrev Variables := List (String × String)

def lookup (env : Variables) (name : String) : Option String :=
  (env.find? fun entry => entry.1 = name).map Prod.snd

/-- The environment with the variable that a line gives, unless it has it. -/
def readLine? (env : Variables) (line : List Char) : Option Variables :=
  match (line.reverse.dropWhile Text.isSpace).reverse.dropWhile Text.isSpace with
  | [] => some env
  | '#' :: _ => some env
  | text => do
    let (name, rest) ← assignment? text
    let value ← match rest.dropWhile Text.isSpace with
      | [] => some []
      | '#' :: _ => some []
      | text => value? (lookup env) ⟨.plain, .none, [], []⟩ text
    let name := String.ofList name
    return if (lookup env name).isSome then env
      else env ++ [(name, String.ofList value)]

def readLines (env : Variables) : List (Option (List Char)) → Variables
  | some line :: rest =>
    match readLine? env line with
    | some env => readLines env rest
    | none => env
  | _ => env

/-- The characters of a file, of which a byte order mark is no part.  A line that
is not UTF-8 ends the file. -/
def chars (content : ByteArray) : List Char :=
  let cs := match Text.ofUtf8? content with
    | some text => text.toList
    | none =>
      ((Text.validStart content.data.toList).reverse.dropWhile (· ≠ '\n')).reverse
  match cs with
  | c :: rest => if c.toNat = 0xFEFF then rest else cs
  | [] => []

def load (env : Variables) (content : ByteArray) : Variables :=
  readLines env (logicalLines [] .plain (physicalLines (chars content)))

end MerchantApi.EnvironmentFile
