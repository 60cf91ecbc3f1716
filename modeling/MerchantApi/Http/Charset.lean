import MerchantApi.MediaType
import MerchantApi.Text.Utf16
/-!
# Character sets of error bodies

The body of an error reply is shown as text.  Its character set is taken from
its content type; a set that is not known counts as UTF-8.  A mark at the start
of the body says more than the content type does.
-/

namespace MerchantApi.Http.Charset

def westernHigh : Array Nat := #[
  0x20AC, 0x81, 0x201A, 0x0192, 0x201E, 0x2026, 0x2020, 0x2021, 0x02C6, 0x2030, 0x0160, 0x2039,
  0x0152, 0x8D, 0x017D, 0x8F, 0x90, 0x2018, 0x2019, 0x201C, 0x201D, 0x2022, 0x2013, 0x2014,
  0x02DC, 0x2122, 0x0161, 0x203A, 0x0153, 0x9D, 0x017E, 0x0178]

def western (b : UInt8) : Char :=
  let n := b.toNat
  if 128 ≤ n ∧ n < 160 then Char.ofNat (westernHigh.getD (n - 128) n) else Char.ofNat n

def westernNames : List String :=
  ["ansi_x3.4-1968", "ascii", "cp1252", "cp819", "csisolatin1", "ibm819", "iso-8859-1",
    "iso-ir-100", "iso8859-1", "iso88591", "iso_8859-1", "iso_8859-1:1987", "l1", "latin1",
    "us-ascii", "windows-1252", "x-cp1252"]

def isBlank (c : Char) : Bool :=
  c = ' ' || c = '\t' || c = '\n' || c = '\r' || c.toNat = 12

/-- The character set that a content type names, in lower case.  A content type
that is not well formed, or not ASCII, names none. -/
def ofContentType (contentType : String) : Option String := do
  guard (contentType.toList.all fun c => c.toNat < 127)
  let name ← (← MediaType.declared? contentType).charset?
  return String.ofList (MediaType.lower (Text.strip isBlank name))

def decode (contentType : Option String) (body : ByteArray) : String :=
  match body.data.toList with
  | 0xEF :: 0xBB :: 0xBF :: rest => Text.lossy ⟨rest.toArray⟩
  | 0xFF :: 0xFE :: rest => Text.lossyLowFirst rest
  | 0xFE :: 0xFF :: rest => Text.lossyHighFirst rest
  | bytes =>
    match contentType.bind ofContentType with
    | some name =>
      if name ∈ westernNames then String.ofList (bytes.map western) else Text.lossy body
    | none => Text.lossy body

end MerchantApi.Http.Charset
