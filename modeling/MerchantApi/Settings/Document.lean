import MerchantApi.ApiError
import MerchantApi.Settings.Problem
import MerchantApi.Settings.Toml
import MerchantApi.Text.Utf8
/-!
# Settings files

A settings file is a JSON or TOML document whose root is a table.  The file of
a stem is looked for under the extensions of both; one that is not there gives
no settings.
-/

namespace MerchantApi.Settings

mutual

/-- The tree of a JSON value that came from a source.  An integer that needs more
than 64 bits with its sign counts as the nearest double. -/
def Tree.ofJson (origin : Option String) : Json → Tree
  | .null => .scalar origin .null
  | .bool b => .scalar origin (.flag b)
  | .number (.int n) =>
    match n.toInt64? with
    | some n => .scalar origin (.int n)
    | none => .scalar origin (.real (.ofDecimal false n.val.toNat 0))
  | .number (.real x) => .scalar origin (.real (.finite x))
  | .string s => .scalar origin (.text s)
  | .array items => .list origin (Tree.ofItems origin items)
  | .object members => .table origin (Tree.ofMembersOf origin members)

def Tree.ofItems (origin : Option String) : List Json → List Tree
  | [] => []
  | x :: rest => Tree.ofJson origin x :: Tree.ofItems origin rest

def Tree.ofMembersOf (origin : Option String) : List (String × Json) → List (String × Tree)
  | [] => []
  | (name, x) :: rest => (name, Tree.ofJson origin x) :: Tree.ofMembersOf origin rest

end

/-- The forms of settings files, in the order in which they are looked for. -/
inductive Format where
  | json
  | toml
deriving DecidableEq

def Format.extension : Format → String
  | .json => ".json"
  | .toml => ".toml"

def Format.parse (file text : String) : Format → Except Problem (Members Tree)
  | .json =>
    match Json.parse text with
    | .error e => .error (.unreadable e file)
    | .ok value =>
      match Tree.ofJson (some file) value with
      | .table _ members => .ok members
      | other => .error (.notATable other file)
  | .toml => (Toml.parse file text).mapError fun line => .unreadableToml line file

abbrev FileReader := String → Except FileError ByteArray

/-- The settings in the file of a stem.  A file that is not UTF-8 counts as not
there but hides the ones behind it, and so does a file that has just the stem
for its name, because it is of no known form. -/
def ofStem (read : FileReader) (stem : String) : Except Problem (Members Tree) :=
  match read stem with
  | .ok _ => .ok []
  | .error _ =>
    let found := [Format.json, Format.toml].findSome? fun format =>
      let file := stem ++ format.extension
      (read file).toOption.map fun content =>
        match Text.ofUtf8? content with
        | some text => format.parse file text
        | none => .ok []
    found.getD (.ok [])

end MerchantApi.Settings
