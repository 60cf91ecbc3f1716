import MerchantApi.Proofs.CommandLine.ImportArguments
import MerchantApi.Proofs.CommandLine.Saving
import MerchantApi.Proofs.Http.Multipart
import MerchantApi.Proofs.Http.SentQuery
import MerchantApi.Proofs.Json.Objects
/-!
# Merchants imported

An import uploads its file together with the headers that were given, in one
request.  Who reads the form that arrives finds the file first and then a JSON text,
from which the field of each header is read that was given last.  A file that cannot
be read is an end before anything is sent.
-/

namespace MerchantApi

/-! ## Forms with a file -/

namespace Http.Multipart

open EntityService

/-- A boundary that is drawn for a content: it is on one line and ends no line of the
content. -/
structure Separates (boundary : String) (content : ByteArray) : Prop where
  oneLine : '\r' ∉ boundary.toList
  absent : ¬ delimiter boundary <:+: content.data.toList

variable {boundary : String} (file : ImportFile) (headers : Members String)

private theorem isPlain_file : IsPlain "file" := by
  unfold IsPlain
  decide +kernel

private theorem isPlain_headerMapping : IsPlain "headerMapping" := by
  unfold IsPlain
  decide +kernel

/-- Without a carriage return a text holds no boundary. -/
theorem not_delimiter_infix_toUTF8 {text : String} (h : '\r' ∉ text.toList) :
    ¬ delimiter boundary <:+: text.toUTF8.data.toList := by
  intro hinside
  rw [Text.toList_toUTF8, delimiter_eq] at hinside
  exact Text.not_mem_octets (by decide) h (hinside.subset List.mem_cons_self)

private theorem legible_importParts (hmime : (MediaType.declared? file.mime).isSome = true)
    (hcontent : Separates boundary file.content) :
    ∀ part ∈ importParts file headers, Legible boundary part := by
  have htext := Json.return_not_mem_compact_texts headers
  refine List.forall_mem_cons.2 ⟨?_, List.forall_mem_singleton.2 ?_⟩
  · exact ⟨isPlain_file, if_pos hmime, hcontent.absent⟩
  · exact ⟨isPlain_headerMapping, rfl, not_delimiter_infix_toUTF8 htext⟩

theorem read?_encode_importParts (hmime : (MediaType.declared? file.mime).isSome = true)
    (hcontent : Separates boundary file.content) :
    read? boundary (encode boundary (importParts file headers)) =
      some [⟨"file", some file.fileName, file.content⟩,
        ⟨"headerMapping", none, (Json.object (headers.map fun entry =>
          (entry.1, .string entry.2))).compact.toUTF8⟩] :=
  read?_encode hcontent.oneLine (List.cons_ne_nil _ _)
    (legible_importParts file headers hmime hcontent)

end Http.Multipart

namespace Http.Client

variable {c : Client} {isHost : List Char → Bool} {path : String} {url : Url} {parts : List Part}

theorem prepare_withForm (boundary : String)
    (hurl : Url.parse? isHost (c.url path) = some url)
    (hparts : ∀ part ∈ parts, Multipart.badMime? part = none) :
    c.prepare isHost boundary ((Request.put path).withForm parts) =
      .ok ⟨"PUT", url, some ("multipart/form-data; boundary=" ++ boundary),
        Multipart.encode boundary parts⟩ := by
  have hbody : encodeBody boundary (.form parts) =
      .ok (some ("multipart/form-data; boundary=" ++ boundary),
        Multipart.encode boundary parts) := by
    rw [encodeBody, List.findSome?_eq_none_iff.2 hparts]
  exact prepare_eq_ok_iff.2 ⟨_, url, hbody, hurl, rfl⟩

end Http.Client

namespace EntityService

open Activity

variable {E σ : Type} [Entity E] (transport : Transport σ) (counter : Counter) (state : σ)

theorem run_importFile {s : EntityService E} {path : String}
    (hpath : s.actionPath "import" = .ok path) (file : ImportFile) (headers : Members String) :
    requestsOf (Activity.run transport (s.importFile file headers).run counter state).log =
        [(Request.put path).withForm (importParts file headers)] ∧
      (Activity.run transport (s.importFile file headers).run counter state).state =
        (transport state ((Request.put path).withForm (importParts file headers))).2 := by
  rw [importFile, Call.run_guarded, hpath, Call.run_ofExcept_ok_bind, Call.run_send_bind_ofExcept]
  exact ⟨rfl, rfl⟩

end EntityService

namespace CommandLine

open Activity Text Http

variable {σ : Type} (transport : Transport σ) (counter : Counter) (state : σ)
  {services : Services} {read : Settings.FileReader} {guess : String → String} {file : String}

theorem run_importMerchants {content : ByteArray} (h : read file = .ok content)
    (headers : List (String × String)) :
    Activity.run transport (Command.perform services read guess
        (.importMerchants file headers)).run counter state =
      let r := Activity.run transport (services.merchants.importFile (.ofPath guess file content)
        (Members.ofList headers)).run counter state
      ⟨(r.result.map merchantsDocument).mapError .api, r.log, r.counter, r.state⟩ := by
  rw [Command.perform, readImport, h]
  exact run_ofCall_show transport counter state _ merchantsDocument

theorem run_importMerchants_of_error {cause : FileError} (h : read file = .error cause)
    (headers : List (String × String)) :
    Activity.run transport (Command.perform services read guess
        (.importMerchants file headers)).run counter state =
      ⟨.error (.api (.io cause)), [], counter, state⟩ := by
  rw [Command.perform, readImport, h]
  rfl

theorem actionPath_import (describe : List Mapping.Violation → String) (size : Nat) :
    (Services.ofPageSize describe size).merchants.actionPath "import" =
      .ok "/merchants/import" := by
  have hplain : '{' ∉ (Merchant.service.endpoints.action "import").source.toList := by decide
  exact Template.resolve_of_not_mem hplain _

theorem actionPath_import_connect {s : Surroundings} {client : Client} {services : Services}
    (h : s.connect = .ok (client, services)) :
    services.merchants.actionPath "import" = .ok "/merchants/import" := by
  obtain ⟨size, rfl⟩ := exists_ofPageSize_of_connect h
  exact actionPath_import s.describe size

/-- A text that spells the map in which every header has the field given last for it. -/
def SpellsHeaders (text : String) (headers : List (String × String)) : Prop :=
  ∃ entries : Members Json, Json.parse text = .ok (.object entries) ∧ entries.Sorted ∧
    ∀ header, entries.get? header = (Members.get? headers.reverse header).map .string

theorem spellsHeaders_compact (headers : List (String × String)) :
    SpellsHeaders (Json.object ((Members.ofList headers).map fun entry =>
      (entry.1, .string entry.2))).compact headers := by
  have hsorted := Members.sorted_ofList headers
  refine ⟨_, Json.parse_compact_texts hsorted, hsorted.map fun _ => Json.string, fun header => ?_⟩
  rw [Members.get?_map fun _ => Json.string, Members.get?_ofList]

/-! ## Messages -/

section Messages

variable {s : Surroundings} {network : Network σ} {client : Client}

theorem state_run_of_connect (command : Command) (h : s.connect = .ok (client, services)) :
    (command.run s network state).2 =
      (Activity.run (client.transport network) (command.perform services s.read s.mediaType).run
        .fresh state).state := by
  rw [Command.run, h]
  dsimp only
  cases (Activity.run (client.transport network)
    (command.perform services s.read s.mediaType).run .fresh state).result with
  | ok document => rfl
  | error failure => rfl

theorem sent_import_of_error {cause : FileError} (h : s.read file = .error cause)
    (headers : List (String × String)) :
    ((Command.importMerchants file headers).run s network.recorded (state, [])).2.2 = [] := by
  cases hconnect : s.connect with
  | error failure =>
    rw [Command.run, hconnect]
  | ok pair =>
    rw [state_run_of_connect _ _ hconnect, run_importMerchants_of_error _ _ _ h]

theorem sent_import {content : ByteArray} {url : Url}
    (hconnect : s.connect = .ok (client, services)) (hread : s.read file = .ok content)
    (hurl : Url.parse? network.isHost (client.url "/merchants/import") = some url)
    (hmime : (MediaType.declared? (s.mediaType (ImportFile.uploadName file))).isSome = true)
    (hcontent : Multipart.Separates (network.boundary state) content)
    (headers : List (String × String)) :
    ∃ body text, SpellsHeaders text headers ∧
      ((Command.importMerchants file headers).run s network.recorded (state, [])).2.2 =
        [⟨"PUT", url, some ("multipart/form-data; boundary=" ++ network.boundary state), body⟩] ∧
      Multipart.read? (network.boundary state) body =
        some [⟨"file", some (ImportFile.uploadName file), content⟩,
          ⟨"headerMapping", none, text.toUTF8⟩] := by
  have hpath := actionPath_import_connect hconnect
  have hparts := Multipart.legible_importParts (.ofPath s.mediaType file content)
    (Members.ofList headers) hmime hcontent
  have hprepare := Client.prepare_withForm (network.boundary state) hurl
    fun part hpart => (hparts part hpart).mime
  have hform := Multipart.read?_encode_importParts (.ofPath s.mediaType file content)
    (Members.ofList headers) hmime hcontent
  refine ⟨_, _, spellsHeaders_compact headers, ?_, hform⟩
  rw [state_run_of_connect _ _ hconnect, run_importMerchants _ _ _ hread]
  dsimp only
  rw [(EntityService.run_importFile _ _ _ hpath _ _).2]
  exact Client.sent_of_prepare_eq_ok hprepare

end Messages

/-- The header mappings of an import arrive as they are given.  A text gives a mapping
when it has an equals sign and neither what stands before the first one nor what stands
behind it is blank, and then gives both trimmed; these are the texts that join a header
and a field, with white space around either.  The arguments of an import amount to what
each of its options gives.  What is sent is one form: who reads it by its boundary finds
the file first and the map of the headers behind it, provided that the media type of the
file is well formed and the boundary does not stand in the file.  When the file cannot be
read, nothing is sent. -/
theorem import_sends_headers_as_given (transport : Transport σ) (counter : Counter) (state : σ) :
    (∀ raw header field : String, headerMapping? raw = some (header, field) ↔
      ∃ before after, raw.toList = before ++ '=' :: after ∧ '=' ∉ before ∧
        ¬ Spaces before ∧ ¬ Spaces after ∧
        header.toList = trim before ∧ field.toList = trim after) ∧
    (∀ raw header field : String,
      headerMapping? raw = some (header, field) ↔ Joins raw header field) ∧
    (∀ (before after : List String) (headers later : List (String × String)) (file : String),
      GivesHeaders before headers → GivesHeaders after later → file ≠ "" →
      (Token.ofText file = .word →
        parse ("merchants" :: "import" :: (before ++ file :: after)) =
          .ok (.importMerchants file (headers ++ later))) ∧
      parse ("merchants" :: "import" :: (before ++ ["--", file])) =
        .ok (.importMerchants file headers)) ∧
    (∀ (services : Services) (read : Settings.FileReader) (guess : String → String)
        (file : String) (headers : List (String × String)),
      let r := Activity.run transport
        (Command.perform services read guess (.importMerchants file headers)).run counter state
      (∀ content path, read file = .ok content →
        services.merchants.actionPath "import" = .ok path →
        ∃ text, SpellsHeaders text headers ∧
          requestsOf r.log = [⟨"PUT", path, [], .form
            [.file "file" (ImportFile.uploadName file) (guess (ImportFile.uploadName file)) content,
              .text "headerMapping" text]⟩]) ∧
      ∀ cause, read file = .error cause →
        r.result = .error (.api (.io cause)) ∧ r.log = [] ∧ r.state = state) ∧
    (∀ (s : Surroundings) (client : Client) (services : Services),
      s.connect = .ok (client, services) →
        services.merchants.actionPath "import" = .ok "/merchants/import") ∧
    ∀ (s : Surroundings) (network : Network σ) (file : String)
        (headers : List (String × String)),
      let sent := ((Command.importMerchants file headers).run s network.recorded (state, [])).2.2
      let boundary := network.boundary state
      (∀ client services content url, s.connect = .ok (client, services) →
        s.read file = .ok content →
        Url.parse? network.isHost (client.url "/merchants/import") = some url →
        (MediaType.declared? (s.mediaType (ImportFile.uploadName file))).isSome = true →
        Multipart.Separates boundary content →
        ∃ body text, SpellsHeaders text headers ∧
          sent = [⟨"PUT", url, some ("multipart/form-data; boundary=" ++ boundary), body⟩] ∧
          Multipart.read? boundary body =
            some [⟨"file", some (ImportFile.uploadName file), content⟩,
              ⟨"headerMapping", none, text.toUTF8⟩]) ∧
      ∀ cause, s.read file = .error cause → sent = [] := by
  refine ⟨fun _ _ _ => headerMapping?_eq_some_iff, fun _ _ _ => headerMapping?_eq_some_iff_joins,
    ?_, ?_, fun _ _ _ => actionPath_import_connect, ?_⟩
  · intro before after headers later file hbefore hafter hfile
    exact ⟨parse_importMerchants hbefore hafter hfile,
      parse_importMerchants_escaped hbefore hfile⟩
  · intro services read guess file headers r
    constructor
    · intro content path hread hpath
      refine ⟨_, spellsHeaders_compact headers, ?_⟩
      rw [show r = _ from run_importMerchants transport counter state hread headers]
      exact (EntityService.run_importFile transport counter state hpath _ _).1
    · intro cause hread
      rw [show r = _ from run_importMerchants_of_error transport counter state hread headers]
      exact ⟨rfl, rfl, rfl⟩
  · intro s network file headers sent boundary
    constructor
    · intro client services content url hconnect hread hurl hmime hcontent
      exact sent_import state hconnect hread hurl hmime hcontent headers
    · intro cause hread
      exact sent_import_of_error state hread headers

def shopDesk : Surroundings where
  environment := []
  read file := if file = "shops.csv" then .ok "Größe,Name\n3,Kim\n".toUTF8 else .error .notFound
  mediaType := MediaType.ofFileName [("csv", "text/csv")]
  describe _ := "out of bounds"

def numbered : Network Unit :=
  { Network.unreachable with
    boundary := fun _ => "1f0c9a5b7e3d2846-00d4b7c1a95e6f32-8e6b13f7d2c0a495-b7d95f3e1c2a8460" }

theorem import_sends_headers_as_given_shopDesk :
    let headers := [("Größe", "size=\"m\""), ("Name", "title"), ("Name", "legal_name")]
    let run (file : String) :=
      (Command.importMerchants file headers).run shopDesk numbered.recorded ((), [])
    let boundary := numbered.boundary ()
    let url : Url := ⟨"http", "localhost:3456", "/api/v1/merchants/import", none⟩
    parse ["merchants", "import", "--map= Größe\t= size=\"m\" ", "shops.csv", "--map",
      "Name=title", "--map=Name=legal_name"] = .ok (.importMerchants "shops.csv" headers) ∧
    (∃ body text, SpellsHeaders text headers ∧
      (run "shops.csv").2.2 =
        [⟨"PUT", url, some ("multipart/form-data; boundary=" ++ boundary), body⟩] ∧
      Multipart.read? boundary body =
        some [⟨"file", some "shops.csv", "Größe,Name\n3,Kim\n".toUTF8⟩,
          ⟨"headerMapping", none, text.toUTF8⟩]) ∧
    (run "none.csv").2.2 = [] := by
  intro headers run boundary url
  obtain ⟨-, -, hparse, -, -, hsent⟩ :=
    import_sends_headers_as_given (Client.transport ⟨""⟩ numbered) .fresh ()
  have hsize : headerMapping? " Größe\t= size=\"m\" " = some ("Größe", "size=\"m\"") := by
    decide +kernel
  have htitle : headerMapping? "Name=title" = some ("Name", "title") := by decide +kernel
  have hlegal : headerMapping? "Name=legal_name" = some ("Name", "legal_name") := by
    decide +kernel
  have hconnect : shopDesk.connect =
      .ok (.ofBase "http://localhost:3456/api/v1", .ofPageSize shopDesk.describe 50) := by
    rfl
  have hurl : Url.parse? numbered.isHost ((Client.ofBase "http://localhost:3456/api/v1").url
      "/merchants/import") = some url := by
    decide +kernel
  have hname : ImportFile.uploadName "shops.csv" = "shops.csv" := by decide +kernel
  have hmime : (MediaType.declared? (shopDesk.mediaType
      (ImportFile.uploadName "shops.csv"))).isSome = true := by
    decide +kernel
  have hcontent : Multipart.Separates boundary "Größe,Name\n3,Kim\n".toUTF8 :=
    ⟨by decide +kernel, Multipart.not_delimiter_infix_toUTF8 (by decide +kernel)⟩
  obtain ⟨hargs, -⟩ := hparse ["--map= Größe\t= size=\"m\" "]
    ["--map", "Name=title", "--map=Name=legal_name"] _ _ "shops.csv" (.joined hsize .nil)
    (.apart htitle (by decide) (.joined hlegal .nil)) (by decide)
  have hfile := (hsent shopDesk numbered "shops.csv" headers).1 _ _ _ url hconnect rfl hurl hmime
    hcontent
  rw [hname] at hfile
  exact ⟨hargs (by decide), hfile, (hsent shopDesk numbered "none.csv" headers).2 _ rfl⟩

end CommandLine

end MerchantApi
