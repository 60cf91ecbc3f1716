import MerchantApi.EntityService
/-!
# Commands

What the program can be asked to do, and why a list of arguments asks for
nothing of it.
-/

namespace MerchantApi.CommandLine

inductive Command where
  | listMappings
  | saveMappings (file : String)
  | deleteFields (fields : List String)
  | listMerchants (page : Page) (search : Option String)
  | deleteMerchants (ids : List UInt64)
  | importMerchants (file : String) (headers : List (String × String))
deriving DecidableEq

def Command.files : Command → List String
  | .saveMappings file => [file]
  | .importMerchants file _ => [file]
  | _ => []

inductive UsageError where
  | noCommand
  | unknownCommand
  | unknownArgument
  | missingArgument
  | missingValue
  | surplusValue
  | repeatedOption
  | refusedValue (reason : String)
deriving DecidableEq

def UsageError.message : UsageError → String
  | .noCommand => "a command is required"
  | .unknownCommand => "unrecognized command"
  | .unknownArgument => "unexpected argument"
  | .missingArgument => "a required argument was not provided"
  | .missingValue => "a value is required but none was supplied"
  | .surplusValue => "unexpected value for an option that takes none"
  | .repeatedOption => "an option cannot be used multiple times"
  | .refusedValue reason => "invalid value: " ++ reason

inductive Interruption where
  | help
  | version
  | misuse (error : UsageError)
deriving DecidableEq

end MerchantApi.CommandLine
