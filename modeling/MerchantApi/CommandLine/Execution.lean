import MerchantApi.CommandLine.Command
import MerchantApi.Services
import MerchantApi.Settings
/-!
# Carrying out commands

A command reads its file before it sends anything.  What the server answers is
printed as an indented JSON document.
-/

namespace MerchantApi.CommandLine

inductive Failure where
  | settings (problem : Settings.Problem)
  | api (error : ApiError)
  | unreadableFile (file : String) (cause : FileError)
  | invalidGroups (file : String) (cause : Json.Reader.ParseError)

namespace Failure

def message : Failure → String
  | .settings problem => problem.message
  | .api error => error.message
  | .unreadableFile file _ => "Failed to read " ++ file
  | .invalidGroups file _ => "Invalid mapping groups in " ++ file

def cause : Failure → Option String
  | .settings _ => none
  | .api error => error.source
  | .unreadableFile _ cause => some cause.message
  | .invalidGroups _ cause => some cause.message

def report (f : Failure) : String :=
  let causes := match f.cause with
    | some cause => "\n\nCaused by:\n    " ++ cause
    | none => ""
  "Error: " ++ f.message ++ causes ++ "\n"

end Failure

abbrev Task (α : Type) := ExceptT Failure Activity α

def Task.ofCall {α : Type} (c : Call α) : Task α :=
  ExceptT.mk (c.run.bind fun result => .finish (result.mapError .api))

def Task.ofExcept {α : Type} (x : Except Failure α) : Task α := ExceptT.mk (.finish x)

def readGroups (read : Settings.FileReader) (file : String) : Except Failure (List Group) :=
  match read file with
  | .error cause => .error (.unreadableFile file cause)
  | .ok content =>
    match Text.ofUtf8? content with
    | none => .error (.unreadableFile file .notText)
    | some text => (Group.parseList text).mapError (.invalidGroups file)

def readImport (read : Settings.FileReader) (guess : String → String) (file : String) :
    Except Failure ImportFile :=
  match read file with
  | .error cause => .error (.api (.io cause))
  | .ok content => .ok (.ofPath guess file content)

def groupsDocument (groups : List Group) : Json := .array (groups.map Group.document)

def merchantsDocument (merchants : List Merchant) : Json := .array (merchants.map Entity.document)

def Command.perform (services : Services) (read : Settings.FileReader)
    (guess : String → String) : Command → Task Json
  | .listMappings => do
    let groups ← Task.ofCall services.mappings.loadAll
    return groupsDocument groups
  | .saveMappings file => do
    let groups ← Task.ofExcept (readGroups read file)
    let ack ← Task.ofCall (services.mappings.bulkSave groups)
    return ack.document
  | .deleteFields fields => do
    let ack ← Task.ofCall (services.mappings.bulkDeleteByFields fields)
    return ack.json
  | .listMerchants page search => do
    let params := (search.map fun s => ("s", s)).toList
    let merchants ← Task.ofCall (services.merchants.getAll Merchant.blank params page)
    return merchantsDocument merchants
  | .deleteMerchants ids => Task.ofCall (services.merchants.bulkDelete ids)
  | .importMerchants file headers => do
    let upload ← Task.ofExcept (readImport read guess file)
    let merchants ← Task.ofCall (services.merchants.importFile upload (Members.ofList headers))
    return merchantsDocument merchants

end MerchantApi.CommandLine
