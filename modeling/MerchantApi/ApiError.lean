import MerchantApi.Json.Printer
import MerchantApi.Json.Reader
/-!
# Errors of the client

Every operation ends with a value or with one of these errors.  An error keeps
its cause; its text and the HTTP status that it stands for follow from that.
-/

namespace MerchantApi

inductive FileError where
  | notFound
  | notADirectory
  | isADirectory
  | nulInName
  | nameTooLong
  | notText
  | other (message : String)
deriving DecidableEq

def FileError.message : FileError → String
  | .notFound => "No such file or directory (os error 2)"
  | .notADirectory => "Not a directory (os error 20)"
  | .isADirectory => "Is a directory (os error 21)"
  | .nulInName => "file name contained an unexpected NUL byte"
  | .nameTooLong => "File name too long (os error 36)"
  | .notText => "stream did not contain valid UTF-8"
  | .other message => message

inductive DecodeError where
  | notAnObject (entity : String) (found : Json)
  | invalidDate (entity field : String) (value : Json)
  | invalidRecord (entity : String) (cause : Json.Mismatch)
  | notAList (entity : String) (found : Json)
  | invalidAcknowledgement (cause : Json.Mismatch)
  | mismatch (cause : Json.Mismatch)
  | unreadable (cause : Json.Reader.ParseError)
  | unreadableReply (cause : Json.Reader.ParseError)
  | invalidMediaType (mime : String)
  | fieldless
  | other (message : String)

def DecodeError.message : DecodeError → String
  | .notAnObject entity found =>
    "Expected " ++ entity ++ " record to be an object, got " ++ found.kind
  | .invalidDate entity field value =>
    "Invalid date in " ++ entity ++ "." ++ field ++ ": " ++ value.compact
  | .invalidRecord entity cause => "Invalid " ++ entity ++ " record: " ++ cause.message
  | .notAList entity found => "Expected a list of " ++ entity ++ " records, got: " ++ found.compact
  | .invalidAcknowledgement cause => "Invalid bulk acknowledgement: " ++ cause.message
  | .mismatch cause => cause.message
  | .unreadable cause => cause.message
  | .unreadableReply cause => "Failed to parse response: " ++ cause.message
  | .invalidMediaType mime => "Invalid MIME type '" ++ mime ++ "': builder error"
  | .fieldless => "entity must serialize to an object"
  | .other message => message

inductive ApiError where
  | missingParameter (name template : String)
  | transport (status : Option Nat) (message : String)
  | hookRejected (message : String)
  | notFound (message : String)
  | decode (cause : DecodeError)
  | configuration (message : String)
  | io (cause : FileError)

namespace ApiError

def message : ApiError → String
  | .missingParameter name template =>
    "Missing parameter '" ++ name ++ "' for endpoint template '" ++ template ++ "'"
  | .transport _ message => "Transport error: " ++ message
  | .hookRejected message => "Rejected by hook: " ++ message
  | .notFound message => "Not found: " ++ message
  | .decode cause => "Decode error: " ++ cause.message
  | .configuration message => "Configuration error: " ++ message
  | .io cause => "IO error: " ++ cause.message

def status : ApiError → Option Nat
  | .transport status _ => status
  | .notFound _ => some 404
  | _ => none

def source : ApiError → Option String
  | .io cause => some cause.message
  | _ => none

end ApiError

end MerchantApi
