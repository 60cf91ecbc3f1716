import MerchantApi.CommandLine.Program
/-!
# The command line

Reads the files that the program may need, runs it, and prints what it shows.
No network is built in, so that every request fails as undelivered; no file is
sent, and so a few media types will do.
-/

namespace MerchantApi.Main

def fileError : IO.Error → FileError
  | .noFileOrDirectory .. => .notFound
  | .inappropriateType .. => .isADirectory
  | error => .other (toString error)

def readFile (name : String) : IO (Except FileError ByteArray) := do
  try
    return .ok (← IO.FS.readBinFile name)
  catch error =>
    return .error (fileError error)

def environment : IO EnvironmentFile.Variables := do
  match ← readFile "/proc/self/environ" with
  | .error _ => return []
  | .ok content =>
    let entries := (Text.lossy content).toList.splitOn (Char.ofNat 0)
    return entries.filterMap fun entry =>
      (CommandLine.splitEquals? entry).map fun (name, value) =>
        (String.ofList name, String.ofList value)

def knownFiles : List String :=
  CommandLine.environmentFile ::
    Settings.stems.flatMap fun stem =>
      stem :: [Settings.Format.json, Settings.Format.toml].map fun f => stem ++ f.extension

def tables : List (String × String) :=
  [("csv", "text/csv"), ("tsv", "text/tab-separated-values"),
    ("xls", "application/vnd.ms-excel"),
    ("xlsx", "application/vnd.openxmlformats-officedocument.spreadsheetml.sheet"),
    ("ods", "application/vnd.oasis.opendocument.spreadsheet")]

/-- A line for each limit that is broken.  No command writes single mappings. -/
def describe (violations : List Mapping.Violation) : String :=
  String.intercalate "\n" (violations.map fun v =>
    v.field ++ ": " ++ toString v.least ++ " to " ++ toString v.most ++ " characters")

end MerchantApi.Main

open MerchantApi

def main (args : List String) : IO UInt32 := do
  let named := match CommandLine.parse args with
    | .ok command => command.files
    | .error _ => []
  let files ← (Main.knownFiles ++ named).mapM fun name => return (name, ← Main.readFile name)
  let read : Settings.FileReader := fun name =>
    ((files.find? fun file => file.1 = name).map Prod.snd).getD (.error .notFound)
  let surroundings : CommandLine.Surroundings :=
    { environment := ← Main.environment
      read := read
      mediaType := MediaType.ofFileName Main.tables
      describe := Main.describe }
  let (outcome, _) := CommandLine.run args surroundings Http.Network.unreachable ()
  IO.print outcome.output
  (← IO.getStderr).putStr outcome.errors
  return outcome.exitCode
