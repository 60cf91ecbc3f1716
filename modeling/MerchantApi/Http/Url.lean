import MerchantApi.Http.Form
/-!
# Addresses

An address of the web is read from text as browsers do: blanks at its ends and
line breaks in it do not count, a backslash is a slash, dot segments are
resolved, and characters that may not stand in it are written as percent
escapes.  Which texts name a host is a parameter.
-/

namespace MerchantApi.Http

structure Url where
  scheme : String
  authority : String
  path : String
  query : Option String
deriving DecidableEq

namespace Url

def escape (c : Char) : List Char :=
  (String.singleton c).toUTF8.data.toList.flatMap Form.percent

def isControl (c : Char) : Bool := c.toNat < 0x20 || 0x7E < c.toNat

def escapedInPath (c : Char) : Bool :=
  isControl c || c = ' ' || c = '"' || c = '#' || c = '<' || c = '>' || c = '?' ||
    c.toNat = 0x60 || c = '{' || c = '}'

def escapedInQuery (c : Char) : Bool :=
  isControl c || c = ' ' || c = '"' || c = '#' || c = '<' || c = '>' || c = '\''

def escapeText (escaped : Char → Bool) (cs : List Char) : List Char :=
  cs.flatMap fun c => if escaped c then escape c else [c]

def isOuter (c : Char) : Bool := c.toNat ≤ 0x20

def isKept (c : Char) : Bool := c ≠ '\t' ∧ c ≠ '\n' ∧ c ≠ '\r'

/-- The text without blanks at its ends and without tabs and line breaks. -/
def clean (cs : List Char) : List Char :=
  (((cs.dropWhile isOuter).reverse.dropWhile isOuter).reverse).filter isKept

def isSingleDot (segment : List Char) : Bool :=
  let s := (String.ofList segment).toLower
  s = "." || s = "%2e"

def isDoubleDot (segment : List Char) : Bool :=
  let s := (String.ofList segment).toLower
  s = ".." || s = ".%2e" || s = "%2e." || s = "%2e%2e"

/-- The segments with the dot segments resolved, after those of `before` in
reverse.  A dot segment at the end leaves an empty segment. -/
def resolveDots (before : List (List Char)) : List (List Char) → List (List Char)
  | [] => before.reverse
  | [segment] =>
    if isDoubleDot segment then (before.tail.reverse) ++ [[]]
    else if isSingleDot segment then before.reverse ++ [[]]
    else before.reverse ++ [segment]
  | segment :: rest =>
    if isDoubleDot segment then resolveDots before.tail rest
    else if isSingleDot segment then resolveDots before rest
    else resolveDots (segment :: before) rest

def normalPath (cs : List Char) : String :=
  let slashed := cs.map fun c => if c = '\\' then '/' else c
  let segments := (slashed.drop 1).splitOn '/'
  let resolved := (resolveDots [] segments).map (escapeText escapedInPath)
  String.ofList ('/' :: List.intercalate ['/'] resolved)

def scheme? (cs : List Char) : Option (String × List Char) :=
  let name := (cs.takeWhile (· ≠ ':')).map Char.toLower
  let rest := cs.dropWhile (· ≠ ':')
  if rest.isEmpty then none
  else if name = ['h', 't', 't', 'p'] then some ("http", rest.drop 1)
  else if name = ['h', 't', 't', 'p', 's'] then some ("https", rest.drop 1)
  else none

def isSlash (c : Char) : Bool := c = '/' ∨ c = '\\'

def isEnd (c : Char) : Bool := c = '/' || c = '\\' || c = '?' || c = '#'

/-- The host of an authority, with its port but without a user. -/
def hostOf (authority : List Char) : List Char :=
  (authority.reverse.takeWhile (· ≠ '@')).reverse

def parse? (isHost : List Char → Bool) (text : String) : Option Url := do
  let (scheme, rest) ← scheme? (clean text.toList)
  let body := rest.dropWhile isSlash
  let authority := body.takeWhile fun c => !isEnd c
  if !isHost (hostOf authority) then none
  else
    let after := (body.dropWhile fun c => !isEnd c).takeWhile (· ≠ '#')
    let path := after.takeWhile (· ≠ '?')
    let query := after.dropWhile (· ≠ '?')
    some
      { scheme := scheme
        authority := (String.ofList authority).toLower
        path := normalPath path
        query := match query with
          | [] => none
          | _ :: q => some (String.ofList (escapeText escapedInQuery q)) }

def withPairs (u : Url) (pairs : List (String × String)) : Url :=
  if pairs.isEmpty then u
  else
    let before := match u.query with
      | none => []
      | some q => if q = "" then [] else q.toList ++ ['&']
    { u with query := some (String.ofList (before ++ Form.encode pairs)) }

def target (u : Url) : String :=
  match u.query with
  | none => u.path
  | some q => u.path ++ "?" ++ q

def text (u : Url) : String := u.scheme ++ "://" ++ u.authority ++ u.target

end Url

end MerchantApi.Http
