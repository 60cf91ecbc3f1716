import MerchantApi.ApiError
/-!
# Path templates

A template is a path with named placeholders in braces, such as
`/merchants/{id}`.  The text is cut from left to right into placeholders and
single characters; a brace that opens no placeholder is a character like any
other.  Resolving puts a parameter in the place of every placeholder at once.
-/

namespace MerchantApi

inductive Piece where
  | char (c : Char)
  | hole (name : List Char)
deriving DecidableEq

namespace Piece

def startsName (c : Char) : Bool := c.isAlpha || c = '_'

def continuesName (c : Char) : Bool := c.isAlphanum || c = '_'

def source : Piece → List Char
  | .char c => [c]
  | .hole name => '{' :: name ++ ['}']

def hole? : List Char → Option (List Char × List Char)
  | '{' :: c :: cs =>
    if startsName c then
      match cs.dropWhile continuesName with
      | '}' :: rest => some (c :: cs.takeWhile continuesName, rest)
      | _ => none
    else none
  | _ => none

theorem length_lt_of_hole? {cs name rest : List Char} (h : hole? cs = some (name, rest)) :
    rest.length < cs.length := by
  unfold hole? at h
  split at h
  · rename_i c cs
    split at h
    · split at h
      · rename_i tail hd
        simp only [Option.some.injEq, Prod.mk.injEq] at h
        have hl := (List.dropWhile_sublist (p := continuesName) (l := cs)).length_le
        rw [hd] at hl
        simp only [List.length_cons] at hl ⊢
        rw [← h.2]
        omega
      · simp at h
    · simp at h
  · simp at h

def scan (cs : List Char) : List Piece :=
  match _h : hole? cs with
  | some (name, rest) => .hole name :: scan rest
  | none =>
    match cs with
    | [] => []
    | c :: cs => .char c :: scan cs
termination_by cs.length
decreasing_by
  · exact length_lt_of_hole? _h
  · simp

end Piece

structure Template where
  source : String
deriving DecidableEq

namespace Template

def pieces (t : Template) : List Piece := Piece.scan t.source.toList

/-- The names of the placeholders among some pieces, once each, by first appearance. -/
def namesOf (pieces : List Piece) : List String :=
  pieces.foldl (fun names piece =>
    match piece with
    | .char _ => names
    | .hole name =>
      if String.ofList name ∈ names then names else names ++ [String.ofList name]) []

def placeholders (t : Template) : List String := namesOf t.pieces

def hasPlaceholders (t : Template) : Bool := !t.placeholders.isEmpty

def fill (params : String → Option String) : Piece → List Char
  | .char c => [c]
  | .hole name => ((params (String.ofList name)).getD "").toList

/-- The path with every placeholder replaced by its parameter.  The first
placeholder without a parameter is an error. -/
def resolve (t : Template) (params : String → Option String) : Except ApiError String :=
  match t.placeholders.find? fun name => (params name).isNone with
  | some name => .error (.missingParameter name t.source)
  | none => .ok (String.ofList (t.pieces.flatMap (fill params)))

end Template

end MerchantApi
