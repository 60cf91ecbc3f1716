import MerchantApi.Proofs.Entity.Stability
import MerchantApi.Proofs.EntityService.Write
import MerchantApi.Proofs.Template
import MerchantApi.Proofs.Text.Cut
import MerchantApi.Proofs.Text.Quoted
/-!
# Mappings within the limits of the server

The server limits the lengths of the texts of a mapping, counted in characters.
The service for mappings lets a mapping pass exactly when it is within them,
so that what it sends to create or to update a mapping is always within them,
and is the mapping that it was given.  The wording of a rejection is that of a
library, of which no more is used than that it names the fields at fault.
-/

namespace MerchantApi

namespace Mapping

def HasLength (text : String) (least most : Nat) : Prop :=
  least ≤ text.length ∧ text.length ≤ most

instance (text : String) (least most : Nat) : Decidable (HasLength text least most) :=
  inferInstanceAs (Decidable (_ ∧ _))

structure Fits (m : Mapping) : Prop where
  fieldName : HasLength m.fieldName 1 100
  placeholder : HasLength m.placeholder 1 100
  displayText : HasLength m.displayText 1 500

inductive Offends (m : Mapping) : String → Prop where
  | fieldName (h : ¬ HasLength m.fieldName 1 100) : Offends m "field_name"
  | placeholder (h : ¬ HasLength m.placeholder 1 100) : Offends m "placeholder"
  | displayText (h : ¬ HasLength m.displayText 1 500) : Offends m "display_text"

structure FitsJson (j : Json) : Prop where
  fieldName : ∃ text, j.member? "field_name" = some (.string text) ∧ HasLength text 1 100
  placeholder : ∃ text, j.member? "placeholder" = some (.string text) ∧ HasLength text 1 100
  displayText : ∃ text, j.member? "display_text" = some (.string text) ∧ HasLength text 1 500

theorem Fits.json {m : Mapping} (h : m.Fits) : FitsJson (Entity.json m) where
  fieldName := ⟨m.fieldName, rfl, h.fieldName⟩
  placeholder := ⟨m.placeholder, rfl, h.placeholder⟩
  displayText := ⟨m.displayText, rfl, h.displayText⟩

theorem Violation.holds_iff (v : Violation) :
    v.holds = true ↔ ¬ HasLength v.value v.least v.most := by
  rw [Violation.holds, HasLength, Bool.or_eq_true, decide_eq_true_eq, decide_eq_true_eq]
  omega

variable {m : Mapping}

theorem mem_violations_iff {name : String} :
    name ∈ m.violations.map Violation.field ↔ m.Offends name := by
  simp only [violations, limits, List.mem_map, List.mem_filter, Violation.holds_iff]
  constructor
  · rintro ⟨v, ⟨hmem, hbroken⟩, rfl⟩
    simp only [List.mem_cons, List.not_mem_nil, or_false] at hmem
    rcases hmem with rfl | rfl | rfl
    · exact .displayText hbroken
    · exact .fieldName hbroken
    · exact .placeholder hbroken
  · rintro (h | h | h)
    · exact ⟨_, ⟨List.mem_cons_of_mem _ List.mem_cons_self, h⟩, rfl⟩
    · exact ⟨_, ⟨List.mem_cons_of_mem _ (List.mem_cons_of_mem _ List.mem_cons_self), h⟩, rfl⟩
    · exact ⟨_, ⟨List.mem_cons_self, h⟩, rfl⟩

theorem fits_iff_forall_not_offends : m.Fits ↔ ∀ name, ¬ m.Offends name := by
  constructor
  · rintro h name (hbroken | hbroken | hbroken)
    · exact hbroken h.fieldName
    · exact hbroken h.placeholder
    · exact hbroken h.displayText
  · intro h
    exact ⟨not_not.1 fun hbroken => h _ (.fieldName hbroken),
      not_not.1 fun hbroken => h _ (.placeholder hbroken),
      not_not.1 fun hbroken => h _ (.displayText hbroken)⟩

theorem violations_eq_nil_iff : m.violations = [] ↔ m.Fits := by
  rw [fits_iff_forall_not_offends, ← List.map_eq_nil_iff (f := Violation.field),
    List.eq_nil_iff_forall_not_mem]
  exact forall_congr' fun name => not_congr mem_violations_iff

private theorem nodup_fields_violations (m : Mapping) :
    (m.violations.map Violation.field).Nodup := by
  have hlimits : ["display_text", "field_name", "placeholder"].Nodup := by decide
  have hsublist : m.violations.Sublist m.limits := List.filter_sublist
  exact hlimits.sublist (hsublist.map Violation.field)

/-! ## Rejections -/

/-- The names in a text: what stands before the first colon of each of its lines. -/
def namesIn (text : String) : List String :=
  (text.toList.splitOn '\n').map fun line => String.ofList (line.takeWhile (· ≠ ':'))

/-- A wording of the limits that a mapping breaks with a line for each, in any order, that
starts with the name of the field. -/
def NamesFields (describe : List Violation → String) : Prop :=
  ∀ m : Mapping, m.violations ≠ [] →
    (namesIn (describe m.violations)).Perm (m.violations.map Violation.field)

/-- A rejection whose text names the fields that offend, once each, and no others. -/
def Rejection (m : Mapping) (cause : ApiError) : Prop :=
  ∃ text, cause = .hookRejected ("Invalid merchant mapping: " ++ text) ∧
    (namesIn text).Nodup ∧ ∀ name, name ∈ namesIn text ↔ m.Offends name

variable {describe : List Violation → String}

theorem validate_of_fits (h : m.Fits) : m.validate describe = .ok m := by
  rw [validate, violations_eq_nil_iff.2 h]

theorem validate_of_not_fits (hdescribe : NamesFields describe) (h : ¬ m.Fits) :
    ∃ cause, m.validate describe = .error cause ∧ m.Rejection cause := by
  have hsome : m.violations ≠ [] := fun hnil => h (violations_eq_nil_iff.1 hnil)
  have hvalidate : m.validate describe =
      .error (.hookRejected ("Invalid merchant mapping: " ++ describe m.violations)) := by
    obtain ⟨v, vs, hvs⟩ := List.exists_cons_of_ne_nil hsome
    rw [validate, hvs]
  have hperm := hdescribe m hsome
  refine ⟨_, hvalidate, _, rfl, hperm.nodup_iff.2 m.nodup_fields_violations, fun name => ?_⟩
  rw [hperm.mem_iff]
  exact mem_violations_iff

/-! ## A wording with lines -/

def Violation.line (v : Violation) : List Char :=
  v.field.toList ++ ':' :: (" Validation error: length [\x7b\"value\": String(" ++
    Text.quoted v.value ++ "), \"min\": Number(" ++ toString v.least ++ "), \"max\": Number(" ++
    toString v.most ++ ")\x7d]").toList

def report (violations : List Violation) : String :=
  String.ofList (List.intercalate ['\n'] (violations.map Violation.line))

private theorem Violation.newline_not_mem_line {v : Violation} (h : '\n' ∉ v.field.toList) :
    '\n' ∉ v.line := by
  simp only [line, String.toList_append, List.mem_append, List.mem_cons, not_or]
  exact ⟨h, by decide, ⟨⟨⟨⟨⟨by decide, Text.newline_not_mem_quoted _⟩, by decide⟩,
    Text.newline_not_mem_toString _⟩, by decide⟩, Text.newline_not_mem_toString _⟩, by decide⟩

private theorem marks_not_mem_field {v : Violation} (h : v ∈ m.violations) :
    '\n' ∉ v.field.toList ∧ ':' ∉ v.field.toList := by
  have hnames : ∀ name ∈ ["display_text", "field_name", "placeholder"],
      '\n' ∉ name.toList ∧ ':' ∉ name.toList := by decide
  exact hnames _ (List.mem_map_of_mem (f := Violation.field) (List.mem_filter.1 h).1)

theorem namesFields_report : NamesFields report := by
  intro m hsome
  have hlines : (List.intercalate ['\n'] (m.violations.map Violation.line)).splitOn '\n' =
      m.violations.map Violation.line := by
    apply List.splitOn_intercalate
    · exact List.forall_mem_map.2 fun v hv => v.newline_not_mem_line (marks_not_mem_field hv).1
    · rwa [ne_eq, List.map_eq_nil_iff]
  have hname : ∀ v ∈ m.violations, String.ofList (v.line.takeWhile (· ≠ ':')) = v.field := by
    intro v hv
    rw [Violation.line, Text.takeWhile_ne_append_cons (marks_not_mem_field hv).2,
      String.ofList_toList]
  rw [namesIn, report, String.toList_ofList, hlines, List.map_map]
  exact List.Perm.of_eq (List.map_congr_left hname)

end Mapping

namespace MappingService

open Activity Call

/-! ## Services as they are built -/

def configured (describe : List Mapping.Violation → String) (endpoints : EndpointSet)
    (sizes : List Nat) : MappingService :=
  sizes.foldl withPageSize (ofEndpoints describe endpoints)

structure Checks (s : MappingService) (describe : List Mapping.Violation → String)
    (endpoints : EndpointSet) : Prop where
  endpoints : s.entities.endpoints = endpoints
  beforeCreate : s.entities.beforeCreate = some (Mapping.validate describe)
  beforeUpdate : s.entities.beforeUpdate = some (Mapping.validate describe)

variable {describe : List Mapping.Violation → String}

theorem Checks.withPageSize {s : MappingService} {endpoints : EndpointSet}
    (h : s.Checks describe endpoints) (size : Nat) :
    (s.withPageSize size).Checks describe endpoints :=
  ⟨h.endpoints, h.beforeCreate, h.beforeUpdate⟩

theorem checks_configured (endpoints : EndpointSet) (sizes : List Nat) :
    (configured describe endpoints sizes).Checks describe endpoints := by
  have hfold : ∀ s : MappingService, s.Checks describe endpoints →
      (sizes.foldl MappingService.withPageSize s).Checks describe endpoints := by
    induction sizes with
    | nil => exact fun _ h => h
    | cons size sizes ih => exact fun s h => ih _ (h.withPageSize size)
  exact hfold _ ⟨rfl, rfl, rfl⟩

/-! ## Writing a mapping -/

/-- What is known of an operation that writes a mapping.  All that it sends is a
mapping within the limits.  A mapping within the limits is sent as it is, if
there is a path for it; any other one is rejected without a look at the path,
and nothing is sent. -/
structure Writes {ι : Type} (s : MappingService) (t : Template) (send : String → Request)
    (m : Mapping) (entry : Entry ι (Except ApiError Answer)) : Prop where
  sends_fitting : ∀ request ∈ requestsOf entry.events,
    ∃ body, request.body = .json body ∧ Mapping.FitsJson body
  sends_as_is : m.Fits → ∀ path, s.entities.resolvePath t (Entity.params m) = .ok path →
    requestsOf entry.events = [(send path).withJson (Entity.json m)]
  lacks_path : m.Fits → ∀ cause, s.entities.resolvePath t (Entity.params m) = .error cause →
    entry.result = .error cause ∧ requestsOf entry.events = []
  rejects : ¬ m.Fits →
    (∃ cause, entry.result = .error cause ∧ m.Rejection cause) ∧ requestsOf entry.events = []

section Writing

variable {s : MappingService} {t : Template} {send : String → Request} {m : Mapping}
  {stage : HookStage}

theorem Writes.of_unsent {ι : Type} {entry : Entry ι (Except ApiError Answer)}
    (hnone : requestsOf entry.events = [])
    (hblocked : m.Fits → ∀ path, s.entities.resolvePath t (Entity.params m) ≠ .ok path)
    (hlacks : m.Fits → ∀ cause, s.entities.resolvePath t (Entity.params m) = .error cause →
      entry.result = .error cause)
    (hrejects : ¬ m.Fits → ∃ cause, entry.result = .error cause ∧ m.Rejection cause) :
    s.Writes t send m entry where
  sends_fitting request hrequest := by
    rw [hnone] at hrequest
    cases hrequest
  sends_as_is h path hpath := absurd hpath (hblocked h path)
  lacks_path h cause hcause := ⟨hlacks h cause hcause, hnone⟩
  rejects h := ⟨hrejects h, hnone⟩

theorem Writes.of_sent {ι : Type} {entry : Entry ι (Except ApiError Answer)} (hfits : m.Fits)
    {path : String} (hpath : s.entities.resolvePath t (Entity.params m) = .ok path)
    (hsent : requestsOf entry.events = [(send path).withJson (Entity.json m)]) :
    s.Writes t send m entry where
  sends_fitting request hrequest := by
    rw [hsent, List.mem_singleton] at hrequest
    exact ⟨Entity.json m, hrequest ▸ rfl, hfits.json⟩
  sends_as_is _ other hother := by
    rw [hpath] at hother
    rw [hsent, Except.ok.inj hother]
  lacks_path _ cause hcause := by
    rw [hpath] at hcause
    cases hcause
  rejects h := absurd hfits h

def writingTask (s : MappingService) (describe : List Mapping.Violation → String)
    (stage : HookStage) (t : Template) (send : String → Request) (m : Mapping) : Call Answer :=
  (Call.guarded (s.entities.writing stage (some (Mapping.validate describe)) t send m) >>=
    fun e => pure (EntityService.Answer.entity e)) >>= fun answer => pure (Answer.entities answer)

variable {σ : Type} (transport : Transport σ)

theorem entry_writingTask {ι : Type} [DecidableEq ι] (s : MappingService)
    (describe : List Mapping.Violation → String) (stage : HookStage) (t : Template)
    (send : String → Request) (m : Mapping) (service : ι) (counters : ι → Counter) (state : σ) :
    let entry :=
      (runAmong transport service (s.writingTask describe stage t send m).run counters state).entry
    let r := run transport
      (s.entities.writing stage (some (Mapping.validate describe)) t send m).run
      (counters service).acquire state
    entry.result = (r.result.map EntityService.Answer.entity).map Answer.entities ∧
      requestsOf entry.events = requestsOf r.log := by
  intro entry r
  have hrun : run transport (s.writingTask describe stage t send m).run (counters service) state =
      ⟨(r.result.map EntityService.Answer.entity).map Answer.entities, r.log, r.counter.release,
        r.state⟩ := by
    rw [writingTask, run_bind_pure, run_bind_pure, Call.run_guarded]
  have hentry : entry = _ := entry_runAmong transport service _ counters state
  rw [hentry, hrun]
  exact ⟨rfl, requestsOf_map _ _⟩

theorem writes_of_writingTask {ι : Type} [DecidableEq ι] (hdescribe : Mapping.NamesFields describe)
    (service : ι) (counters : ι → Counter) (state : σ) :
    s.Writes t send m
      (runAmong transport service (s.writingTask describe stage t send m).run counters
        state).entry := by
  obtain ⟨hresult, hevents⟩ :=
    entry_writingTask transport s describe stage t send m service counters state
  have hhook : EntityService.hooked (some (Mapping.validate describe)) m = m.validate describe :=
    rfl
  by_cases hfits : m.Fits
  · rw [Mapping.validate_of_fits hfits] at hhook
    cases hpath : s.entities.resolvePath t (Entity.params m) with
    | ok path =>
      have hsent := EntityService.requestsOf_writing stage t send transport hhook hpath
        (counters service).acquire state
      rw [← hevents] at hsent
      exact .of_sent hfits hpath hsent
    | error cause =>
      obtain ⟨herror, hnone, -⟩ := EntityService.quiet_writing_of_path stage t send hhook hpath σ
        transport (counters service).acquire state
      rw [herror] at hresult
      refine .of_unsent (hevents.trans hnone) (fun _ path h => ?_) (fun _ other h => ?_)
        fun h => absurd hfits h
      · rw [hpath] at h
        cases h
      · rw [hpath] at h
        cases h
        exact hresult
  · obtain ⟨cause, hvalidate, hrejection⟩ := Mapping.validate_of_not_fits hdescribe hfits
    obtain ⟨herror, hnone, -⟩ := EntityService.quiet_writing_of_hook (s := s.entities) stage t send
      (hhook.trans hvalidate) σ transport (counters service).acquire state
    rw [herror] at hresult
    exact .of_unsent (hevents.trans hnone) (fun h => absurd h hfits) (fun h => absurd h hfits)
      fun _ => ⟨cause, hresult, hrejection⟩

end Writing

theorem perform_create {s : MappingService} {endpoints : EndpointSet}
    (h : s.Checks describe endpoints) (m : Mapping) :
    s.perform (.entities (.create m)) =
      s.writingTask describe .beforeCreate endpoints.create Request.post m := by
  rw [writingTask, ← h.beforeCreate, ← h.endpoints, ← EntityService.create_eq]
  rfl

theorem perform_update {s : MappingService} {endpoints : EndpointSet}
    (h : s.Checks describe endpoints) (m : Mapping) :
    s.perform (.entities (.update m)) =
      s.writingTask describe .beforeUpdate endpoints.update Request.put m := by
  rw [writingTask, ← h.beforeUpdate, ← h.endpoints, ← EntityService.update_eq]
  rfl

/-- In every session of a service for mappings, what is sent to create or update
a mapping is a mapping within the limits and the one that was given.  A mapping
that is not within them is rejected, whatever its path, with the names of the
fields that offend. -/
theorem only_fitting_mappings_written (describe : List Mapping.Violation → String)
    (hdescribe : Mapping.NamesFields describe) (endpoints : EndpointSet) (sizes : List Nat)
    (σ ι : Type) [DecidableEq ι] (service : Task → ι) (transport : Transport σ)
    (tasks : List Task) (counters : ι → Counter) (state : σ) :
    let s := configured describe endpoints sizes
    List.Forall₂ (fun task entry =>
        (∀ m, task = .entities (.create m) → s.Writes endpoints.create Request.post m entry) ∧
        ∀ m, task = .entities (.update m) → s.Writes endpoints.update Request.put m entry)
      tasks
      (session transport service (fun task => (s.perform task).run) tasks counters state) := by
  intro s
  have hchecks : s.Checks describe endpoints := checks_configured endpoints sizes
  refine forall₂_session transport (fun task counters state => ⟨?_, ?_⟩) tasks counters state
  · rintro m rfl
    rw [perform_create hchecks]
    exact writes_of_writingTask transport hdescribe _ counters state
  · rintro m rfl
    rw [perform_update hchecks]
    exact writes_of_writingTask transport hdescribe _ counters state

def cityMapping : Mapping := .ofLabel "city" "@" "Zürich" 4

def bareMapping : Mapping := .ofLabel "" "" "Zürich" 4

theorem only_fitting_mappings_written_cityBare :
    Mapping.NamesFields Mapping.report ∧
    Mapping.report bareMapping.violations =
      "field_name: Validation error: length [\x7b\"value\": String(\"\"), \"min\": Number(1), " ++
        "\"max\": Number(100)\x7d]\nplaceholder: Validation error: length [\x7b\"value\": " ++
        "String(\"\"), \"min\": Number(1), \"max\": Number(100)\x7d]" ∧
    ∃ created updated,
      session (fun _ _ => (.ok .null, ())) (fun _ => ())
          (fun task => ((standard Mapping.report).perform task).run)
          [.entities (.create cityMapping), .entities (.update bareMapping)]
          (fun _ => Counter.fresh) () = [created, updated] ∧
        requestsOf created.events =
          [(Request.post "/merchant-mappings").withJson (Entity.json cityMapping)] ∧
        (∃ cause, updated.result = .error cause ∧ bareMapping.Rejection cause) ∧
        requestsOf updated.events = [] := by
  have hwritten := only_fitting_mappings_written Mapping.report Mapping.namesFields_report
    (.rest base) [] Unit Unit (fun _ => ()) (fun _ _ => (.ok .null, ()))
    [.entities (.create cityMapping), .entities (.update bareMapping)] (fun _ => Counter.fresh) ()
  obtain ⟨created, _, ⟨hcreate, -⟩, hrest, hsession⟩ := List.forall₂_cons_left_iff.1 hwritten
  obtain ⟨updated, _, ⟨-, hupdate⟩, hnil, rfl⟩ := List.forall₂_cons_left_iff.1 hrest
  obtain rfl := List.forall₂_nil_left_iff.1 hnil
  have hfits : cityMapping.Fits := ⟨by decide, by decide, by decide⟩
  have hbare : ¬ bareMapping.Fits := fun h => absurd h.fieldName (by decide)
  have hplain : '{' ∉ (EndpointSet.rest base).create.source.toList := by decide
  obtain ⟨hrejected, hnothing⟩ := (hupdate _ rfl).rejects hbare
  exact ⟨Mapping.namesFields_report, by decide +kernel, created, updated, hsession,
    (hcreate _ rfl).sends_as_is hfits _ (Template.resolve_of_not_mem hplain _), hrejected,
    hnothing⟩

end MappingService

end MerchantApi
