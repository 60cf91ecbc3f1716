import MerchantApi.CommandLine.Arguments
import MerchantApi.CommandLine.Execution
import MerchantApi.EnvironmentFile
import MerchantApi.Http.Client
/-!
# The program

The program reads its arguments, then its settings, and then carries out the
command over a network.  Everything that it finds around itself is given as
values, and everything that it shows is returned.
-/

namespace MerchantApi.CommandLine

/-- What the program finds where it is started: the environment, the files, the media
type that the name of a file suggests, and the wording of limits that a mapping breaks. -/
structure Surroundings where
  environment : EnvironmentFile.Variables
  read : Settings.FileReader
  mediaType : String → String
  describe : List Mapping.Violation → String

def environmentFile : String := ".env"

def Surroundings.fullEnvironment (s : Surroundings) : EnvironmentFile.Variables :=
  match s.read environmentFile with
  | .ok content => EnvironmentFile.load s.environment content
  | .error _ => s.environment

def Surroundings.connect (s : Surroundings) : Except Failure (Http.Client × Services) := do
  let settings ← (Settings.load s.read s.fullEnvironment).mapError .settings
  let client ← (Http.Client.ofSetting settings.baseUrl).mapError .api
  return (client, .ofPageSize s.describe settings.pageSize.toNat)

inductive Outcome where
  | printed (text : String)
  | failed (failure : Failure)
  | interrupted (why : Interruption)

namespace Outcome

def versionLine : String := "merchant-client 0.1.0\n"

def usage : String :=
  "Usage: merchant-client <COMMAND>\n\n" ++
  "Commands:\n" ++
  "  mappings list\n" ++
  "  mappings save <FILE>\n" ++
  "  mappings delete-fields <FIELDS>...\n" ++
  "  merchants list [--page <PAGE>] [--search <SEARCH>]\n" ++
  "  merchants delete <IDS>...\n" ++
  "  merchants import <FILE> [--map <HEADER=FIELD>]...\n"

def exitCode : Outcome → UInt32
  | .printed _ => 0
  | .failed _ => 1
  | .interrupted (.misuse _) => 2
  | .interrupted _ => 0

def output : Outcome → String
  | .printed text => text
  | .interrupted .help => usage
  | .interrupted .version => versionLine
  | _ => ""

def errors : Outcome → String
  | .failed failure => failure.report
  | .interrupted (.misuse e) => "error: " ++ e.message ++ "\n\n" ++ usage
  | _ => ""

end Outcome

def printed (document : Json) : String := document.pretty ++ "\n"

def Command.run {σ : Type} (command : Command) (s : Surroundings) (network : Http.Network σ)
    (state : σ) : Outcome × σ :=
  match s.connect with
  | .error failure => (.failed failure, state)
  | .ok (client, services) =>
    let run := (command.perform services s.read s.mediaType).run.run (client.transport network)
      .fresh state
    match run.result with
    | .ok document => (.printed (printed document), run.state)
    | .error failure => (.failed failure, run.state)

def run {σ : Type} (args : List String) (s : Surroundings) (network : Http.Network σ)
    (state : σ) : Outcome × σ :=
  match parse args with
  | .error why => (.interrupted why, state)
  | .ok command => command.run s network state

end MerchantApi.CommandLine
