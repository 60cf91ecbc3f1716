import MerchantApi.Settings.Document
import MerchantApi.Settings.Environment
/-!
# Settings

What the client is configured with.  Settings come from two files and from the
environment, in this order, later ones over earlier ones; what none of them
gives has a default.
-/

namespace MerchantApi

inductive LogFormat where
  | pretty
  | json
deriving DecidableEq

structure Settings where
  baseUrl : String
  timeoutSecs : UInt64
  pageSize : UInt32
  logLevel : String
  logFormat : LogFormat
deriving DecidableEq

namespace Settings

def default : Settings where
  baseUrl := "http://localhost:3456/api/v1"
  timeoutSecs := 30
  pageSize := 50
  logLevel := "info"
  logFormat := .pretty

/-! ### Typed values -/

/-- The unsigned integer that a value stands for.  Booleans, and words for them,
are one and zero. -/
def asUInt64 (key : String) (value : Tree) : Except Problem UInt64 :=
  match value with
  | .scalar _ (.flag b) => .ok (if b then 1 else 0)
  | .scalar _ (.int n) =>
    if 0 ≤ n.toInt then .ok (UInt64.ofNat n.toInt.toNat)
    else .error (.wrongType value "an unsigned 64 bit or less integer" key)
  | .scalar _ (.real x) => .ok x.toUInt64
  | .scalar _ (.text s) =>
    if s.toLower ∈ ["true", "on", "yes"] then .ok 1
    else if s.toLower ∈ ["false", "off", "no"] then .ok 0
    else
      match Text.natural UInt64.size s with
      | .ok n => .ok (UInt64.ofNat n)
      | .error _ => .error (.wrongType value "an integer" key)
  | _ => .error (.wrongType value "an integer" key)

def asUInt32 (key : String) (value : Tree) : Except Problem UInt32 := do
  let n ← asUInt64 key value
  if n.toNat < UInt32.size then .ok (UInt32.ofNat n.toNat)
  else .error (.tooLarge n "an unsigned 32 bit integer" key)

def asText (key : String) (value : Tree) : Except Problem String :=
  match value with
  | .scalar _ (.flag b) => .ok (if b then "true" else "false")
  | .scalar _ (.int n) => .ok (Tree.integerText n)
  | .scalar _ (.real x) => .ok x.text
  | .scalar _ (.text s) => .ok s
  | _ => .error (.wrongType value "a string" key)

def formatOf (name : String) : Except Problem LogFormat :=
  match name.toLower with
  | "pretty" => .ok .pretty
  | "json" => .ok .json
  | _ => .error (.unknownVariant "LogFormat" name)

/-- The format that a value names, as a text or as the only name of a table. -/
def asFormat (value : Tree) : Except Problem LogFormat :=
  match value with
  | .scalar _ (.text name) => formatOf name
  | .table _ [(name, _)] => formatOf name
  | _ => .error (.notAVariant "LogFormat")

/-! ### Sections -/

/-- A section of the settings: a table, or a list of the values in their order. -/
structure Section where
  name : String
  value : Tree

def section? (tree : Tree) (name title : String) : Except Problem (Option Section) :=
  match Members.get? tree.members name with
  | none => .ok none
  | some value@(.scalar ..) => .error (.notASection value ("struct " ++ title))
  | some value => .ok (some ⟨name, value⟩)

/-- Read a member of a section, which has a position for lists.  A member that
is missing has its default. -/
def Section.read {α : Type} (part : Option Section) (member : String) (position : Nat)
    (type : String → Tree → Except Problem α) (blank : α) : Except Problem α :=
  match part with
  | none => .ok blank
  | some ⟨name, .list _ items⟩ =>
    match items[position]? with
    | some value => type (name ++ "[" ++ toString position ++ "]") value
    | none => .ok blank
  | some ⟨name, value⟩ =>
    match Members.get? value.members member with
    | some value => type (name ++ "." ++ member) value
    | none => .ok blank

def ofTree (tree : Tree) : Except Problem Settings := do
  let client ← section? tree "client" "ClientConfig"
  let baseUrl ← Section.read client "base_url" 0 asText default.baseUrl
  let timeoutSecs ← Section.read client "timeout_secs" 1 asUInt64 default.timeoutSecs
  let pageSize ← Section.read client "page_size" 2 asUInt32 default.pageSize
  let logging ← section? tree "logging" "LoggingConfig"
  let logLevel ← Section.read logging "level" 0 asText default.logLevel
  let logFormat ← Section.read logging "format" 1 (fun _ => asFormat) default.logFormat
  if pageSize = 0 then .error .zeroPageSize
  else .ok ⟨baseUrl, timeoutSecs, pageSize, logLevel, logFormat⟩

/-! ### Sources -/

/-- The stems of the settings files, a later one over an earlier one. -/
def stems : List String := ["config/default", "config/local"]

def load (read : FileReader) (env : List (String × String)) : Except Problem Settings := do
  let documents ← stems.mapM (ofStem read)
  let sources := documents ++ [ofVariables env]
  ofTree (sources.foldl Tree.assignAll (Tree.ofMembers []))

end Settings

end MerchantApi
