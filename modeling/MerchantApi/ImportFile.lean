import MerchantApi.MediaType
/-!
# Files to import

A spreadsheet that is uploaded: its name, its media type and its content.  How a
media type is guessed from a name is a parameter.
-/

namespace MerchantApi

structure ImportFile where
  fileName : String
  mime : String
  content : ByteArray

namespace ImportFile

def ofContent (guess : String → String) (fileName : String) (content : ByteArray) :
    ImportFile where
  fileName := fileName
  mime := guess fileName
  content := content

def uploadName (path : String) : String :=
  match MediaType.fileName? path with
  | some name => String.ofList name
  | none => "upload"

def ofPath (guess : String → String) (path : String) (content : ByteArray) : ImportFile :=
  ofContent guess (uploadName path) content

end ImportFile

end MerchantApi
