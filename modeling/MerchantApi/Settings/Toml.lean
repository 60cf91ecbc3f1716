import MerchantApi.Settings.Tree
import MerchantApi.Text.Hex
import MerchantApi.Text.Integer
import MerchantApi.Text.Space
/-!
# TOML documents

The part of TOML that settings are written in: sections in brackets, and lines
that give a bare name a text, a number or a boolean.
-/

namespace MerchantApi.Settings.Toml

def isBare (c : Char) : Bool := c.isAlphanum || c = '_' || c = '-'

def names? (cs : List Char) : Option (List String) :=
  (cs.splitOn '.').mapM fun part =>
    let name := Text.trim part
    if name.isEmpty ∨ ¬name.all isBare then none else some (String.ofList name)

def escaped? : Char → Option Char
  | 'b' => some (Char.ofNat 8)
  | 't' => some '\t'
  | 'n' => some '\n'
  | 'f' => some (Char.ofNat 12)
  | 'r' => some '\r'
  | '"' => some '"'
  | '\\' => some '\\'
  | _ => none

def basic? : List Char → Option (List Char × List Char)
  | '"' :: rest => some ([], rest)
  | '\\' :: 'u' :: a :: b :: c :: d :: rest => do
    let code ← [a, b, c, d].foldlM (fun n x => (Text.hexValue? x).map fun v => 16 * n + v) 0
    guard (decide code.isValidChar)
    let (text, rest) ← basic? rest
    return (Char.ofNat code :: text, rest)
  | '\\' :: c :: rest => do
    let c ← escaped? c
    let (text, rest) ← basic? rest
    return (c :: text, rest)
  | c :: rest => do
    guard (c = '\t' ∨ ¬c.toNat < 32)
    let (text, rest) ← basic? rest
    return (c :: text, rest)
  | [] => none

def literal? (cs : List Char) : Option (List Char × List Char) :=
  match cs.dropWhile (· ≠ '\'') with
  | _ :: rest => some (cs.takeWhile (· ≠ '\''), rest)
  | [] => none

def word? (cs : List Char) : Option Scalar :=
  let s := String.ofList (cs.filter (· ≠ '_'))
  match s with
  | "true" => some (.flag true)
  | "false" => some (.flag false)
  | _ =>
    match Text.int64? s with
    | some n => some (.int n)
    | none => (Real.ofText? s).map .real

/-- Whether nothing but a comment is left of a line. -/
def isOver (cs : List Char) : Bool :=
  match cs.dropWhile Text.isSpace with
  | [] => true
  | c :: _ => c = '#'

def value? (cs : List Char) : Option Scalar :=
  let quoted (reading : Option (List Char × List Char)) : Option Scalar := do
    let (text, rest) ← reading
    guard (isOver rest)
    return .text (String.ofList text)
  match cs.dropWhile Text.isSpace with
  | '"' :: rest => quoted (basic? rest)
  | '\'' :: rest => quoted (literal? rest)
  | rest => word? (Text.trim (rest.takeWhile (· ≠ '#')))

/-- The section that the lines read so far have opened, and the settings that
they have given. -/
structure Page where
  current : List String
  entries : List (List String × Scalar)

def Page.read? (p : Page) (line : List Char) : Option Page :=
  match line.dropWhile Text.isSpace with
  | '[' :: cs => do
    match cs.dropWhile (· ≠ ']') with
    | _ :: rest =>
      guard (isOver rest)
      return { p with current := ← names? (cs.takeWhile (· ≠ ']')) }
    | [] => none
  | cs =>
    if isOver cs then some p
    else
      match cs.dropWhile (· ≠ '=') with
      | _ :: rest => do
        let names ← names? (cs.takeWhile (· ≠ '='))
        let value ← value? rest
        return { p with entries := p.entries ++ [(p.current ++ names, value)] }
      | [] => none

/-- Read lines; a failure is the number of the line that cannot be read. -/
def readLines (p : Page) (number : Nat) : List (List Char) → Except Nat Page
  | [] => .ok p
  | line :: rest =>
    match p.read? line with
    | some p => readLines p (number + 1) rest
    | none => .error number

def chars (text : String) : List Char :=
  match text.toList with
  | c :: cs => if c.toNat = 0xFEFF then cs else c :: cs
  | [] => []

def parse (origin text : String) : Except Nat (Members Tree) := do
  let page ← readLines ⟨[], []⟩ 1 ((chars text).splitOn '\n')
  let tree := page.entries.foldl
    (fun tree (names, value) =>
      Tree.assign (.scalar (some origin) value) (names.map .member) (some tree))
    (Tree.ofMembers [])
  return tree.members

end MerchantApi.Settings.Toml
