import MerchantApi.InFlight
import MerchantApi.Proofs.Mapping.GroupText
import MerchantApi.Proofs.Mapping.Store
import MerchantApi.Proofs.Text.Utf8
/-!
# Groups printed and saved

What one command prints for the groups that it has loaded is what another one
reads from a file and saves.  A file without groups is an end before anything is
sent.
-/

namespace MerchantApi.CommandLine

open Activity

variable {α β σ : Type} (transport : Transport σ) (counter : Counter) (state : σ)

/-! ## Parts of commands -/

theorem run_ofCall_show (c : Call α) (document : α → β) :
    Activity.run transport (do let a ← Task.ofCall c; return document a : Task β).run counter
        state =
      let r := Activity.run transport c.run counter state
      ⟨(r.result.map document).mapError .api, r.log, r.counter, r.state⟩ := by
  have hshow : ∀ result : Except ApiError α,
      ExceptT.bindCont (fun a => (return document a : Task β)) (result.mapError Failure.api) =
        .finish ((result.map document).mapError .api) := by
    intro result
    cases result <;> rfl
  change Activity.run transport ((c.run.bind fun result =>
    .finish (result.mapError Failure.api)).bind (ExceptT.bindCont _)) counter state = _
  rw [bind_assoc, run_bind]
  simp only [Activity.bind, hshow, Activity.run, Run.after, List.append_nil]

theorem run_listMappings (services : Services) (read : Settings.FileReader)
    (guess : String → String) :
    Activity.run transport (Command.perform services read guess .listMappings).run counter
        state =
      let r := Activity.run transport services.mappings.loadAll.run counter state
      ⟨(r.result.map groupsDocument).mapError .api, r.log, r.counter, r.state⟩ :=
  run_ofCall_show transport counter state services.mappings.loadAll groupsDocument

variable {services : Services} {read : Settings.FileReader} {guess : String → String}
  {file : String}

theorem run_saveMappings {groups : List Group} (h : readGroups read file = .ok groups) :
    Activity.run transport (Command.perform services read guess (.saveMappings file)).run counter
        state =
      let r := Activity.run transport (services.mappings.bulkSave groups).run counter state
      ⟨(r.result.map SaveAck.document).mapError .api, r.log, r.counter, r.state⟩ := by
  rw [Command.perform, h]
  exact run_ofCall_show transport counter state (services.mappings.bulkSave groups) SaveAck.document

theorem run_saveMappings_of_error {failure : Failure}
    (h : readGroups read file = .error failure) :
    Activity.run transport (Command.perform services read guess (.saveMappings file)).run counter
        state = ⟨.error failure, [], counter, state⟩ := by
  rw [Command.perform, h]
  rfl

private theorem log_bulkSave {s : MappingService} {path : String}
    (hpath : s.entities.actionPath "bulk_save" = .ok path) (groups : List Group) :
    requestsOf (Activity.run transport (s.bulkSave groups).run counter state).log =
      [(Request.post path).withJson (MappingService.saveBody groups)] := by
  rw [MappingService.bulkSave, hpath, Call.run_ofExcept_ok_bind, EntityService.run_execute_read]
  rfl

theorem saveBody_eq (groups : List Group) :
    MappingService.saveBody groups = .object [("fieldMappings",
      .array (groups.map fun g => .object [("field", .string g.field),
        ("mappings", .array (g.labels.map fun l => .object
          [("displayText", .string l.displayText), ("labelId", .ofInt64 l.labelId),
            ("placeholder", .string l.placeholder)]))]))] := by
  have hlabel := funext Label.json_eq
  have hgroup : Group.json = fun g => .object [("field", .string g.field),
      ("mappings", .array (g.labels.map Label.json))] := rfl
  rw [MappingService.saveBody, hgroup, hlabel]

/-! ## Files of groups -/

theorem readGroups_eq_ok_iff {groups : List Group} :
    readGroups read file = .ok groups ↔ ∃ content text, read file = .ok content ∧
      Text.ofUtf8? content = some text ∧ Group.parseList text = .ok groups := by
  constructor
  · intro h
    unfold readGroups at h
    split at h
    · cases h
    · rename_i content hread
      split at h
      · cases h
      · rename_i text htext
        cases hparse : Group.parseList text with
        | error cause =>
          rw [hparse] at h
          cases h
        | ok found =>
          rw [hparse] at h
          obtain rfl : found = groups := Except.ok.inj h
          exact ⟨content, text, hread, htext, hparse⟩
  · rintro ⟨content, text, hread, htext, hparse⟩
    rw [readGroups, hread]
    simp only [htext, hparse]
    rfl

private theorem readGroups_printed {groups : List Group}
    (h : read file = .ok (printed (groupsDocument groups)).toUTF8) :
    readGroups read file = .ok groups :=
  readGroups_eq_ok_iff.2 ⟨_, _, h, Text.ofUtf8?_toUTF8 _, Group.parseList_printed groups⟩

/-! ## Commands as a whole -/

theorem printed_listMappings_iff (s : Surroundings) (network : Http.Network σ) (text : String) :
    (Command.listMappings.run s network state).1 = .printed text ↔
      ∃ client services groups, s.connect = .ok (client, services) ∧
        (Activity.run (client.transport network) services.mappings.loadAll.run .fresh
          state).result = .ok groups ∧
        text = printed (groupsDocument groups) := by
  cases hconnect : s.connect with
  | error failure =>
    rw [Command.run, hconnect]
    exact ⟨nofun, nofun⟩
  | ok pair =>
    obtain ⟨client, services⟩ := pair
    rw [Command.run, hconnect]
    simp only [run_listMappings]
    cases hloaded : (Activity.run (client.transport network) services.mappings.loadAll.run .fresh
      state).result with
    | error cause =>
      refine ⟨nofun, ?_⟩
      rintro ⟨_, _, groups, ⟨⟩, hgroups, -⟩
      rw [hloaded] at hgroups
      cases hgroups
    | ok groups =>
      constructor
      · rintro ⟨⟩
        exact ⟨client, services, groups, rfl, hloaded, rfl⟩
      · rintro ⟨_, _, others, ⟨⟩, hothers, rfl⟩
        obtain rfl := Except.ok.inj (hloaded.symm.trans hothers)
        rfl

theorem exists_ofPageSize_of_connect {s : Surroundings} {client : Http.Client}
    {services : Services} (h : s.connect = .ok (client, services)) :
    ∃ size, services = .ofPageSize s.describe size := by
  obtain ⟨settings, -, hrest⟩ := Outcome.bind_eq_ok_iff.1 h
  obtain ⟨_, -, hpair⟩ := Outcome.bind_eq_ok_iff.1 hrest
  obtain ⟨-, rfl⟩ := Prod.mk.inj (Except.ok.inj hpair)
  exact ⟨_, rfl⟩

theorem actionPath_connect {s : Surroundings} {client : Http.Client} {services : Services}
    (h : s.connect = .ok (client, services)) :
    services.mappings.entities.actionPath "bulk_save" = .ok "/merchant-mappings/bulk_save" := by
  obtain ⟨size, rfl⟩ := exists_ofPageSize_of_connect h
  exact MappingBackend.actionPath_standard s.describe size "bulk_save" (by decide)

/-- What the program prints for the groups that it has loaded is read from a file
as these groups, and they are saved in one request.  Nothing is sent when there
are no groups in the file. -/
theorem save_sends_what_list_prints (services : Services) (transport : Transport σ)
    (counter : Counter) (state : σ) :
    (∀ (s : Surroundings) (network : Http.Network σ) (text : String),
      (Command.listMappings.run s network state).1 = .printed text ↔
        ∃ client services groups, s.connect = .ok (client, services) ∧
          (Activity.run (client.transport network) services.mappings.loadAll.run .fresh
            state).result = .ok groups ∧
          text = printed (groupsDocument groups)) ∧
    (∀ (read : Settings.FileReader) (guess : String → String) (file : String)
        (groups : List Group),
      read file = .ok (printed (groupsDocument groups)).toUTF8 →
        readGroups read file = .ok groups ∧
        ∀ path, services.mappings.entities.actionPath "bulk_save" = .ok path →
          requestsOf (Activity.run transport (Command.perform services read guess
              (.saveMappings file)).run counter state).log =
            [⟨"POST", path, [], .json (.object [("fieldMappings",
              .array (groups.map fun g => .object [("field", .string g.field),
                ("mappings", .array (g.labels.map fun l => .object
                  [("displayText", .string l.displayText), ("labelId", .ofInt64 l.labelId),
                    ("placeholder", .string l.placeholder)]))]))])⟩]) ∧
    (∀ (s : Surroundings) (client : Http.Client) (services : Services),
      s.connect = .ok (client, services) →
        services.mappings.entities.actionPath "bulk_save" = .ok "/merchant-mappings/bulk_save") ∧
    ∀ (read : Settings.FileReader) (guess : String → String) (file : String),
      (∀ content text groups, read file = .ok content → Text.ofUtf8? content = some text →
        Group.parseList text ≠ .ok groups) →
      let r := Activity.run transport
        (Command.perform services read guess (.saveMappings file)).run counter state
      (∃ failure, r.result = .error failure) ∧ r.log = [] ∧ r.state = state := by
  refine ⟨printed_listMappings_iff state, fun read guess file groups hread => ?_,
    fun s client services => actionPath_connect, fun read guess file hnone => ?_⟩
  · have hgroups := readGroups_printed hread
    refine ⟨hgroups, fun path hpath => ?_⟩
    rw [run_saveMappings _ _ _ hgroups, ← saveBody_eq]
    exact log_bulkSave transport counter state hpath groups
  · cases hgroups : readGroups read file with
    | ok groups =>
      obtain ⟨content, text, hcontent, htext, hparse⟩ := readGroups_eq_ok_iff.1 hgroups
      exact absurd hparse (hnone content text groups hcontent htext)
    | error failure =>
      rw [run_saveMappings_of_error _ _ _ hgroups]
      exact ⟨⟨failure, rfl⟩, rfl, rfl⟩

def oddGroups : List Group :=
  [⟨"a\"\\", [⟨"\u0001\n", "größe", -9223372036854775808⟩, ⟨"", "\t𝄞", 0⟩]⟩, ⟨"", []⟩,
    ⟨"a\"\\", [⟨"p", "/", 7⟩]⟩]

def oddFiles : Settings.FileReader := fun file =>
  if file = "groups.json" then .ok (printed (groupsDocument oddGroups)).toUTF8
  else .error .notFound

theorem save_sends_what_list_prints_oddGroups :
    let services := Services.ofPageSize (fun _ => "out of bounds") 50
    let run (file : String) := Activity.run (Script.mk []).transport
      (Command.perform services oddFiles (fun _ => MediaType.unknown) (.saveMappings file)).run
      .fresh 0
    readGroups oddFiles "groups.json" = .ok oddGroups ∧
    requestsOf (run "groups.json").log =
      [(Request.post "/merchant-mappings/bulk_save").withJson
        (MappingService.saveBody oddGroups)] ∧
    (run "none.json").log = [] := by
  intro services run
  obtain ⟨-, hsaved, -, hunread⟩ :=
    save_sends_what_list_prints services (Script.mk []).transport .fresh 0
  have hpath : services.mappings.entities.actionPath "bulk_save" =
      .ok "/merchant-mappings/bulk_save" :=
    MappingBackend.actionPath_standard _ 50 "bulk_save" (by decide)
  have hfile : oddFiles "groups.json" = .ok (printed (groupsDocument oddGroups)).toUTF8 :=
    if_pos rfl
  have hnone : oddFiles "none.json" = .error .notFound := if_neg (by decide)
  obtain ⟨hgroups, hrequests⟩ := hsaved oddFiles (fun _ => MediaType.unknown) "groups.json"
    oddGroups hfile
  obtain ⟨-, hlog, -⟩ := hunread oddFiles (fun _ => MediaType.unknown) "none.json"
    fun _ _ _ hcontent => absurd (hnone.symm.trans hcontent) nofun
  have hrun : run "groups.json" = Activity.run (Script.mk []).transport (Command.perform services
      oddFiles (fun _ => MediaType.unknown) (.saveMappings "groups.json")).run .fresh 0 := rfl
  refine ⟨hgroups, ?_, hlog⟩
  rw [hrun, saveBody_eq]
  exact hrequests _ hpath

end MerchantApi.CommandLine
