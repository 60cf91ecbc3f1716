import MerchantApi.Http.Url
import MerchantApi.MediaType
import MerchantApi.Request
/-!
# Forms with files

The parts of a form stand between boundary lines, each with its headers.  A
name that holds characters that may not stand in a header is escaped.
-/

namespace MerchantApi.Http.Multipart

def crlf : List Char := ['\r', '\n']

def escapedInName (c : Char) : Bool :=
  Url.escapedInPath c || c = '/' || c = '%'

/-- The name of a part, escaped if need be.  The quotes stay when nothing is
escaped, and also around the escape of a name of one byte. -/
def nameHeader (name : String) : List Char :=
  let written := Url.escapeText escapedInName name.toList
  if name.toList.any escapedInName && 1 < name.utf8ByteSize then "name*=utf-8''".toList ++ written
  else "name=\"".toList ++ written ++ ['"']

def quote (c : Char) : List Char :=
  if c = '\\' ∨ c = '"' ∨ c = '\r' ∨ c = '\n' then ['\\', c] else [c]

def fileNameHeader (fileName : String) : List Char :=
  "; filename=\"".toList ++ fileName.toList.flatMap quote ++ ['"']

def normalMime (mime : String) : List Char :=
  match MediaType.declared? mime with
  | some m => m.chars
  | none => mime.toList

def dispositionHeader : List Char := "Content-Disposition: form-data; ".toList

def typeHeader : List Char := "Content-Type: ".toList

def headers : Part → List Char
  | .text name _ => dispositionHeader ++ nameHeader name
  | .file name fileName mime _ =>
    dispositionHeader ++ nameHeader name ++ fileNameHeader fileName ++ crlf ++ typeHeader ++
      normalMime mime

def content : Part → ByteArray
  | .text _ value => value.toUTF8
  | .file _ _ _ bytes => bytes

def encodePart (boundary : String) (part : Part) : ByteArray :=
  (String.ofList ('-' :: '-' :: boundary.toList ++ crlf ++ headers part ++ crlf ++ crlf)).toUTF8
    ++ content part ++ (String.ofList crlf).toUTF8

def encode (boundary : String) (parts : List Part) : ByteArray :=
  if parts.isEmpty then .empty
  else
    parts.foldl (fun bytes part => bytes ++ encodePart boundary part) .empty ++
      (String.ofList ('-' :: '-' :: boundary.toList ++ ['-', '-'] ++ crlf)).toUTF8

def badMime? : Part → Option String
  | .text .. => none
  | .file _ _ mime _ => if (MediaType.declared? mime).isSome then none else some mime

end MerchantApi.Http.Multipart
