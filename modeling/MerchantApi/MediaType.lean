import MerchantApi.Text.Space
/-!
# Media types

The media type of a file is guessed from the extension of its name, without
regard to case, by a table of extensions in lower case.  A media type that a form
declares has to be well formed.
-/

namespace MerchantApi.MediaType

def unknown : String := "application/octet-stream"

/-- The case folding of a character, where it leads to letters of ASCII. -/
def fold (c : Char) : List Char :=
  match c.toNat with
  | 0x17F => ['s']
  | 0x212A => ['k']
  | 0xDF => ['s', 's']
  | 0x1E9E => ['s', 's']
  | 0xFB00 => ['f', 'f']
  | 0xFB01 => ['f', 'i']
  | 0xFB02 => ['f', 'l']
  | 0xFB03 => ['f', 'f', 'i']
  | 0xFB04 => ['f', 'f', 'l']
  | 0xFB05 => ['s', 't']
  | 0xFB06 => ['s', 't']
  | _ => [c.toLower]

/-- The segments of a path that are not empty or a single dot, but for the dot
at the start of a relative path. -/
def segments (path : List Char) : List (List Char) :=
  let pieces := path.splitOn '/'
  match pieces with
  | [] => []
  | first :: rest =>
    (if first = [] then [] else [first]) ++ rest.filter fun s => s ≠ [] ∧ s ≠ ['.']

/-- The last segment of a path, unless that is a step to this or the parent folder. -/
def fileName? (path : String) : Option (List Char) :=
  match (segments path.toList).getLast? with
  | none => none
  | some name => if name = ['.'] ∨ name = ['.', '.'] then none else some name

/-- What follows the last dot of a file name, unless that is its first character. -/
def extension? (name : List Char) : Option (List Char) :=
  let ending := name.reverse.takeWhile (· ≠ '.')
  if ending.length + 1 < name.length then some ending.reverse else none

def ofFileName (table : List (String × String)) (path : String) : String :=
  match (fileName? path).bind extension? with
  | none => unknown
  | some ext =>
    let folded := String.ofList (ext.flatMap fold)
    ((table.find? fun entry => entry.1 = folded).map Prod.snd).getD unknown

/-! ### Declared media types -/

def isToken (c : Char) : Bool :=
  c.isAlphanum || c = '!' || c = '#' || c = '$' || c = '%' || c = '&' || c = '\'' || c = '*' ||
    c = '+' || c = '-' || c = '.' || c = '^' || c = '_' || c.toNat = 0x60 || c = '|' || c = '~'

def isQuotable (c : Char) : Bool := 31 < c.toNat && c.toNat ≠ 127

def token? (cs : List Char) : Option (List Char × List Char) :=
  let name := cs.takeWhile isToken
  if name.isEmpty then none else some (name, cs.dropWhile isToken)

/-- The value of a parameter as it is written, with its quotes and the blanks
behind them. -/
structure Value where
  quoted : Bool
  text : List Char
  blanks : List Char

/-- The value of a parameter: a token or a quoted text that is not empty, or
nothing at the end. -/
def value? (cs : List Char) : Option (Value × List Char) :=
  match cs with
  | [] => some (⟨false, [], []⟩, [])
  | '"' :: c :: rest =>
    let within (d : Char) : Bool := isQuotable d && d ≠ '"'
    if isQuotable c then
      match rest.dropWhile within with
      | '"' :: after =>
        some (⟨true, c :: rest.takeWhile within, after.takeWhile (· = ' ')⟩,
          after.dropWhile (· = ' '))
      | _ => none
    else none
  | _ => (token? cs).map fun (text, rest) => (⟨false, text, []⟩, rest)

structure Parameter where
  blanks : List Char
  name : List Char
  value : Value

/-- The parameters behind a semicolon, and the semicolon and the blanks that may
stand at the end.  `fuel` bounds their number. -/
def parameters? : (fuel : Nat) → List Char → Option (List Parameter × List Char)
  | 0, _ => none
  | fuel + 1, cs =>
    let blanks := cs.takeWhile (· = ' ')
    match cs.dropWhile (· = ' ') with
    | [] => some ([], ';' :: blanks)
    | cs => do
      match ← token? cs with
      | (name, '=' :: rest) =>
        match ← value? rest with
        | (value, []) => return ([⟨blanks, name, value⟩], [])
        | (value, ';' :: rest) =>
          let (parameters, ending) ← parameters? fuel rest
          return (⟨blanks, name, value⟩ :: parameters, ending)
        | _ => none
      | _ => none

structure Declared where
  essence : List Char
  parameters : List Parameter
  ending : List Char

/-- The media type that a text declares.  The subtype may be empty at the end. -/
def declared? (mime : String) : Option Declared := do
  match ← token? mime.toList with
  | (type, ['/']) => return ⟨type ++ ['/'], [], []⟩
  | (type, '/' :: rest) =>
    match ← token? rest with
    | (subtype, []) => return ⟨type ++ '/' :: subtype, [], []⟩
    | (subtype, ';' :: rest) =>
      let (parameters, ending) ← parameters? (rest.length + 1) rest
      return ⟨type ++ '/' :: subtype, parameters, ending⟩
    | _ => none
  | _ => none

def lower (cs : List Char) : List Char := cs.map Char.toLower

def charsetName : List Char := "charset".toList

/-- A parameter with its name in lower case.  A character set is in lower case
too; other values stay as they are. -/
def Parameter.chars (p : Parameter) : List Char :=
  let name := lower p.name
  let text := if name = charsetName then lower p.value.text else p.value.text
  let value := if p.value.quoted then '"' :: text ++ ['"'] else text
  ';' :: p.blanks ++ name ++ '=' :: value ++ p.value.blanks

def Declared.chars (m : Declared) : List Char :=
  lower m.essence ++
    if m.parameters.isEmpty then [] else m.parameters.flatMap Parameter.chars ++ m.ending

def Declared.charset? (m : Declared) : Option (List Char) :=
  (m.parameters.find? fun p => lower p.name = charsetName).map fun p => p.value.text

end MerchantApi.MediaType
