import MerchantApi.Activity
import MerchantApi.Http.Charset
import MerchantApi.Http.Multipart
import MerchantApi.Json.Bytes
import MerchantApi.Text.Slash
/-!
# The client of the server

A client turns requests into messages to its server and the responses into
JSON values or errors.  The network between them is a parameter: it answers a
message with a response or fails.
-/

namespace MerchantApi.Http

structure Outgoing where
  method : String
  url : Url
  contentType : Option String
  body : ByteArray

/-- What a server answers.  A response can break off before its end. -/
structure Response where
  status : Nat
  contentType : Option String
  body : ByteArray
  complete : Bool

/-- The response to a request of some method, as it arrives: three statuses never
carry a body, and nor do the responses to `HEAD`. -/
def Response.received (r : Response) (method : String) : Response :=
  if method = "HEAD" ∨ r.status = 101 ∨ r.status = 204 ∨ r.status = 304 then
    { r with body := .empty, complete := true }
  else r

/-- Whether a response can be read: its status has three digits, and does not
announce that another response follows. -/
def Response.isReadable (r : Response) : Bool :=
  r.status = 101 || (200 ≤ r.status && r.status ≤ 999)

/-- What delivers messages.  It knows which texts name hosts, draws a boundary for each
form, and answers a message with a response or says why it cannot. -/
structure Network (σ : Type) where
  isHost : List Char → Bool
  boundary : σ → String
  deliver : σ → Outgoing → Except String Response × σ

structure Client where
  baseUrl : String
deriving DecidableEq

namespace Client

def ofBase (base : String) : Client := ⟨Text.dropTrailingSlashes base⟩

def hasWebScheme (base : String) : Bool :=
  "http://".toList.isPrefixOf base.toList || "https://".toList.isPrefixOf base.toList

def ofSetting (base : String) : Except ApiError Client :=
  if hasWebScheme base then .ok (ofBase base)
  else .error (.configuration "Base URL must start with http:// or https://")

def url (c : Client) (path : String) : String :=
  c.baseUrl ++ "/" ++ Text.dropLeadingSlashes path

def encodeBody (boundary : String) : Body → Except ApiError (Option String × ByteArray)
  | .empty => .ok (none, .empty)
  | .json value => .ok (some "application/json", value.compact.toUTF8)
  | .form parts =>
    match parts.findSome? Multipart.badMime? with
    | some mime => .error (.decode (.invalidMediaType mime))
    | none =>
      .ok (some ("multipart/form-data; boundary=" ++ boundary), Multipart.encode boundary parts)

def undelivered (reason : String) : ApiError :=
  .transport none ("Request failed: " ++ reason)

def prepare (c : Client) (isHost : List Char → Bool) (boundary : String) (r : Request) :
    Except ApiError Outgoing := do
  let (contentType, body) ← encodeBody boundary r.body
  match Url.parse? isHost (c.url r.path) with
  | none => .error (undelivered "builder error")
  | some url => .ok ⟨r.method, url.withPairs r.query, contentType, body⟩

def reason (status : Nat) : String :=
  match status with
  | 100 => "Continue"
  | 101 => "Switching Protocols"
  | 102 => "Processing"
  | 200 => "OK"
  | 201 => "Created"
  | 202 => "Accepted"
  | 203 => "Non Authoritative Information"
  | 204 => "No Content"
  | 205 => "Reset Content"
  | 206 => "Partial Content"
  | 207 => "Multi-Status"
  | 208 => "Already Reported"
  | 226 => "IM Used"
  | 300 => "Multiple Choices"
  | 301 => "Moved Permanently"
  | 302 => "Found"
  | 303 => "See Other"
  | 304 => "Not Modified"
  | 305 => "Use Proxy"
  | 307 => "Temporary Redirect"
  | 308 => "Permanent Redirect"
  | 400 => "Bad Request"
  | 401 => "Unauthorized"
  | 402 => "Payment Required"
  | 403 => "Forbidden"
  | 404 => "Not Found"
  | 405 => "Method Not Allowed"
  | 406 => "Not Acceptable"
  | 407 => "Proxy Authentication Required"
  | 408 => "Request Timeout"
  | 409 => "Conflict"
  | 410 => "Gone"
  | 411 => "Length Required"
  | 412 => "Precondition Failed"
  | 413 => "Payload Too Large"
  | 414 => "URI Too Long"
  | 415 => "Unsupported Media Type"
  | 416 => "Range Not Satisfiable"
  | 417 => "Expectation Failed"
  | 418 => "I'm a teapot"
  | 421 => "Misdirected Request"
  | 422 => "Unprocessable Entity"
  | 423 => "Locked"
  | 424 => "Failed Dependency"
  | 425 => "Too Early"
  | 426 => "Upgrade Required"
  | 428 => "Precondition Required"
  | 429 => "Too Many Requests"
  | 431 => "Request Header Fields Too Large"
  | 451 => "Unavailable For Legal Reasons"
  | 500 => "Internal Server Error"
  | 501 => "Not Implemented"
  | 502 => "Bad Gateway"
  | 503 => "Service Unavailable"
  | 504 => "Gateway Timeout"
  | 505 => "HTTP Version Not Supported"
  | 506 => "Variant Also Negotiates"
  | 507 => "Insufficient Storage"
  | 508 => "Loop Detected"
  | 510 => "Not Extended"
  | 511 => "Network Authentication Required"
  | _ => "<unknown status code>"

def isBlankByte (b : UInt8) : Bool :=
  b = 0x20 || b = 0x09 || b = 0x0A || b = 0x0C || b = 0x0D

def interpret (r : Request) (response : Response) : Reply :=
  let status := response.status
  if 200 ≤ status ∧ status < 300 then
    if !response.complete then
      .error (.transport (some status) "Failed to read response: error decoding response body")
    else if response.body.data.toList.all isBlankByte then .ok .null
    else (Json.parseBytes response.body).mapError fun e => .decode (.unreadableReply e)
  else
    let text := if response.complete then Charset.decode response.contentType response.body else ""
    if status = 404 then .error (.notFound (r.label ++ ": " ++ text))
    else
      .error (.transport (some status)
        ("HTTP " ++ toString status ++ " " ++ reason status ++ ": " ++ text))

def transport {σ : Type} (c : Client) (network : Network σ) : Activity.Transport σ :=
  fun state r =>
    match c.prepare network.isHost (network.boundary state) r with
    | .error e => (.error e, state)
    | .ok message =>
      match network.deliver state message with
      | (.ok response, state) =>
        if response.isReadable then (interpret r (response.received r.method), state)
        else (.error (undelivered "error sending request"), state)
      | (.error reason, state) => (.error (undelivered reason), state)

end Client

/-- A network of which nothing can be reached; it takes every text that is not empty for
a host. -/
def Network.unreachable : Network Unit where
  isHost host := !host.isEmpty
  boundary _ := "boundary"
  deliver _ message :=
    (.error ("error sending request for url (" ++ message.url.text ++ ")"), ())

end MerchantApi.Http
