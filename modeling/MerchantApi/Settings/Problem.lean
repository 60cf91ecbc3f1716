import MerchantApi.Json.Reader
import MerchantApi.Settings.Tree
/-!
# Problems with settings

Why settings cannot be used.  A value of a wrong type is reported with its place
and its source, as far as they are known.
-/

namespace MerchantApi.Settings

inductive Problem where
  | unreadable (cause : Json.Reader.ParseError) (file : String)
  | unreadableToml (line : Nat) (file : String)
  | notATable (found : Tree) (file : String)
  | notASection (found : Tree) (expected : String)
  | wrongType (found : Tree) (expected key : String)
  | tooLarge (found : UInt64) (expected key : String)
  | unknownVariant (type name : String)
  | notAVariant (type : String)
  | zeroPageSize

def Problem.message : Problem → String
  | .unreadable cause file => cause.message ++ " in " ++ file
  | .unreadableToml line file => "TOML parse error at line " ++ toString line ++ " in " ++ file
  | .notATable found file =>
    "invalid type: " ++ found.describe ++ ", expected a map in " ++ file ++ " in " ++ file
  | .notASection found expected =>
    "invalid type: " ++ found.outline ++ ", expected " ++ expected
  | .wrongType found expected key =>
    let place := match found.origin with
      | some origin => " in " ++ origin
      | none => ""
    "invalid type: " ++ found.describe ++ ", expected " ++ expected ++
      " for key `" ++ key ++ "`" ++ place
  | .tooLarge found expected key =>
    "invalid type: 64-bit unsigned integer `" ++ toString found.toNat ++ "`, expected " ++
      expected ++ " for key `" ++ key ++ "`"
  | .unknownVariant type name =>
    "enum " ++ type ++ " does not have variant constructor " ++ name
  | .notAVariant type =>
    "value of enum " ++ type ++
      " should be represented by either string or table with exactly one key"
  | .zeroPageSize => "client.page_size must be greater than 0"

end MerchantApi.Settings
