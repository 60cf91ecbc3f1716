import MerchantApi.Settings.Tree
import MerchantApi.Text.Integer
/-!
# Settings in environment variables

A variable whose name starts with `APP__`, in any case, gives the setting that
the rest of its name says, two underscores standing between a section and its
member.  Its value is a boolean, an integer or a number if it reads as one, and
a text otherwise.
-/

namespace MerchantApi.Settings

def marker : List Char := "app__".toList

def environmentName : String := "the environment"

def Scalar.ofText (s : String) : Scalar :=
  if s.toLower = "true" then .flag true
  else if s.toLower = "false" then .flag false
  else
    match Text.int64? s with
    | some n => .int n
    | none =>
      match Real.ofText? s with
      | some x => .real x
      | none => .text s

/-- A name with a point in the place of every two underscores. -/
def pointed : List Char → List Char
  | '_' :: '_' :: cs => '.' :: pointed cs
  | c :: cs => c :: pointed cs
  | [] => []

def ofVariable? (entry : String × String) : Option (String × Tree) :=
  let name := (Text.lower entry.1).toList
  if marker.isPrefixOf name then
    some (String.ofList (pointed (name.drop marker.length)),
      .scalar (some environmentName) (Scalar.ofText entry.2))
  else none

/-- The settings that variables give; of a repeated name the last value counts. -/
def ofVariables (env : List (String × String)) : Members Tree :=
  Members.ofList (env.filterMap ofVariable?)

end MerchantApi.Settings
