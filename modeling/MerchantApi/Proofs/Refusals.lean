import MerchantApi.Proofs.Dispatch
import MerchantApi.Proofs.Outcome
import MerchantApi.Proofs.Sessions
/-!
# Refused tasks and first faults

A task is refused when its hook fails, or else when its path lacks a parameter.
A refused task sends nothing and leaves no trace in the tasks after it.  Every
other task sends requests, and the first thing that goes wrong with a reply is
its result.
-/

namespace MerchantApi

open Activity Call

/-- What goes wrong with a reply that is read: it is an error itself, or it
cannot be read. -/
inductive ReadFault {α : Type} (read : Json → Except ApiError α) : Reply → ApiError → Prop where
  | transport (cause : ApiError) : ReadFault read (.error cause) cause
  | unread {raw : Json} {cause : ApiError} (hread : read raw = .error cause) :
    ReadFault read (.ok raw) cause

theorem readFault_iff {α : Type} {read : Json → Except ApiError α} (reply : Reply)
    (cause : ApiError) : ReadFault read reply cause ↔ reply >>= read = .error cause := by
  rw [Outcome.bind_eq_error_iff]
  constructor
  · intro h
    cases h with
    | transport => exact Or.inl rfl
    | unread hread => exact Or.inr ⟨_, rfl, hread⟩
  · rintro (rfl | ⟨raw, rfl, hread⟩)
    · exact .transport cause
    · exact .unread hread

namespace EntityService

variable {E : Type}

/-! ## Refusals of a service for entities -/

/-- The first placeholder of a template that neither the parameters of the call
nor the fixed ones supply, as an error. -/
def blocked? (s : EntityService E) (t : Template) (params : Members String) : Option ApiError :=
  (t.placeholders.find? fun name =>
    !Members.has params name && !Members.has s.pathParams name).map
      fun name => .missingParameter name t.source

def hooked (hook : Option (E → Except ApiError E)) (e : E) : Except ApiError E :=
  match hook with
  | none => .ok e
  | some f => f e

section Refusals

variable [Entity E]

/-- The error of a hook, or else that of the path of the entity that it returns. -/
def writeRefusal? (s : EntityService E) (hook : Option (E → Except ApiError E)) (t : Template)
    (e : E) : Option ApiError :=
  match hooked hook e with
  | .error cause => some cause
  | .ok e => s.blocked? t (Entity.params e)

def refusal? (s : EntityService E) : Task E → Option ApiError
  | .create e => s.writeRefusal? s.beforeCreate s.endpoints.create e
  | .update e => s.writeRefusal? s.beforeUpdate s.endpoints.update e
  | .get id => s.blocked? s.endpoints.get (idParams id)
  | .delete id => s.blocked? s.endpoints.delete (idParams id)
  | .bulkDelete _ => s.blocked? (s.endpoints.action "bulk_delete") []
  | .list query params _ => s.blocked? s.endpoints.getAll (filters query params)
  | .importFile _ _ => s.blocked? (s.endpoints.action "import") []
  | .execute _ => none

end Refusals

theorem resolvePath_of_blocked {s : EntityService E} {t : Template} {params : Members String}
    {cause : ApiError} (h : s.blocked? t params = some cause) :
    s.resolvePath t params = .error cause := by
  obtain ⟨name, hname, rfl⟩ := Option.map_eq_some_iff.1 h
  have hfind : t.placeholders.find? (fun name =>
      ((Members.get? params name).or (Members.get? s.pathParams name)).isNone) = some name := by
    simpa [Members.has] using hname
  simp only [resolvePath, Template.resolve, hfind]

private theorem exists_path_of_not_blocked {s : EntityService E} {t : Template}
    {params : Members String} (h : s.blocked? t params = none) :
    ∃ path, s.resolvePath t params = .ok path := by
  have hfind : t.placeholders.find? (fun name =>
      ((Members.get? params name).or (Members.get? s.pathParams name)).isNone) = none := by
    simpa [blocked?, Members.has] using h
  simp only [resolvePath, Template.resolve, hfind]
  exact ⟨_, rfl⟩

/-! ## Faults of replies -/

inductive Reading where
  | entity
  | list
  | verbatim

def Task.reading : Task E → Reading
  | .create _ | .update _ | .get _ => .entity
  | .list _ _ _ | .importFile _ _ => .list
  | .delete _ | .bulkDelete _ | .execute _ => .verbatim

/-- The first thing that goes wrong with a reply that should be a list: it is an
error itself, it is no list, or the model refuses an item of the list and none
before it. -/
inductive ListFault [Entity E] (s : EntityService E) : Reply → ApiError → Prop where
  | transport (cause : ApiError) : ListFault s (.error cause) cause
  | unwrapping {raw : Json} {cause : ApiError} (hlist : s.unwrapList raw = .error cause) :
    ListFault s (.ok raw) cause
  | item {raw item : Json} {earlier later : List Json} {cause : ApiError}
    (hlist : s.unwrapList raw = .ok (earlier ++ item :: later))
    (hearlier : ∀ other ∈ earlier, ∃ e, s.model other = .ok e)
    (hmodel : s.model item = .error cause) : ListFault s (.ok raw) cause

variable [Entity E]

def Fault (s : EntityService E) : Reading → Reply → ApiError → Prop
  | .entity => ReadFault s.model
  | .list => s.ListFault
  | .verbatim => fun reply cause => reply = .error cause

variable {s : EntityService E}

theorem listFault_iff (reply : Reply) (cause : ApiError) :
    s.ListFault reply cause ↔ reply >>= s.readList = .error cause := by
  simp only [Outcome.bind_eq_error_iff, readList, Outcome.mapM_eq_error_iff]
  constructor
  · intro h
    cases h with
    | transport => exact Or.inl rfl
    | unwrapping hlist => exact Or.inr ⟨_, rfl, Or.inl hlist⟩
    | item hlist hearlier hmodel =>
      exact Or.inr ⟨_, rfl, Or.inr ⟨_, hlist, _, _, _, rfl, hearlier, hmodel⟩⟩
  · rintro (rfl | ⟨raw, rfl, hlist | ⟨_, hlist, earlier, item, later, rfl, hearlier, hmodel⟩⟩)
    · exact .transport _
    · exact .unwrapping hlist
    · exact .item hlist hearlier hmodel

/-! ## Operations of a service for entities -/

omit [Entity E] in
theorem settles_path {α : Type} (s : EntityService E) (t : Template) (params : Members String)
    {Fault : Reply → ApiError → Prop} {f : String → Call α} (hf : ∀ path, (f path).Sends Fault) :
    (ofExcept (s.resolvePath t params) >>= f).Settles (s.blocked? t params) Fault := by
  refine settles_of_quiet (quiet_ofExcept _) (fun cause hcause => ?_) (fun path hpath => ?_)
  · cases hblocked : s.blocked? t params with
    | none =>
      obtain ⟨path, hpath⟩ := exists_path_of_not_blocked hblocked
      rw [hpath] at hcause
      cases hcause
    | some other =>
      rw [resolvePath_of_blocked hblocked] at hcause
      exact congrArg some (Except.error.inj hcause)
  · cases hblocked : s.blocked? t params with
    | none => exact (hf path).settles
    | some cause =>
      rw [resolvePath_of_blocked hblocked] at hpath
      cases hpath

theorem quiet_applyHook (stage : HookStage) (hook : Option (E → Except ApiError E)) (e : E) :
    (applyHook stage hook e).Quiet (hooked hook e) := by
  cases hook with
  | none => exact quiet_ofExcept (.ok e)
  | some f => exact quiet_hook stage (Entity.json e) (f e)

/-- Writing an entity is refused by its hook or by its path, or else it sends. -/
theorem settles_write {α : Type} (stage : HookStage) (hook : Option (E → Except ApiError E))
    (t : Template) (e : E) {Fault : Reply → ApiError → Prop} {f : E → String → Call α}
    (hf : ∀ e path, (f e path).Sends Fault) :
    (do let e ← applyHook stage hook e
        let path ← Call.ofExcept (s.resolvePath t (Entity.params e))
        f e path : Call α).Settles (s.writeRefusal? hook t e) Fault := by
  refine settles_of_quiet (quiet_applyHook stage hook e) (fun cause hcause => ?_)
    (fun written hwritten => ?_)
  · simp only [writeRefusal?, hcause]
  · simp only [writeRefusal?, hwritten]
    exact s.settles_path t (Entity.params written) (hf written)

theorem sends_fetchPage (path : String) (filters : Members String) (number : Nat) :
    (s.fetchPage path filters number).Sends (s.Fault .list) :=
  sends_read _ listFault_iff

theorem reports_fetchFrom (path : String) (filters : Members String) (count number : Nat)
    (before : List E) :
    (s.fetchFrom path filters count number before).Reports (s.Fault .list) := by
  induction count generalizing number before with
  | zero => exact reports_pure before
  | succ count ih =>
    refine (sends_fetchPage path filters number).reports.bind fun batch => ?_
    split
    · exact reports_pure _
    · exact ih (number + 1) (before ++ batch)

theorem sends_fetchFrom (path : String) (filters : Members String) (count number : Nat)
    (before : List E) :
    (s.fetchFrom path filters (count + 1) number before).Sends (s.Fault .list) := by
  refine (sends_fetchPage path filters number).bind fun batch => ?_
  split
  · exact reports_pure _
  · exact reports_fetchFrom path filters count (number + 1) (before ++ batch)

theorem settles_getAll (query : E) (params : Members String) (page : Page) :
    (s.getAll query params page).Settles (s.blocked? s.endpoints.getAll (filters query params))
      (s.Fault .list) := by
  refine (s.settles_path _ _ fun path => ?_).guarded
  cases page with
  | single number => exact sends_fetchPage path _ number
  | all => exact sends_fetchFrom path _ (UInt32.size - 2) 1 []

theorem sends_execute (request : Request) : (s.execute request).Sends (s.Fault .verbatim) :=
  (sends_send request fun _ _ => Iff.rfl).guarded

/-- Every task is refused as `refusal?` says, or else it sends and reports. -/
theorem settles_perform (s : EntityService E) (task : Task E) :
    (s.perform task).Settles (s.refusal? task) (s.Fault task.reading) := by
  cases task with
  | create e =>
    exact (settles_write _ _ _ e fun _ _ => sends_read _ readFault_iff).guarded.bind
      fun _ => reports_pure _
  | update e =>
    exact (settles_write _ _ _ e fun _ _ => sends_read _ readFault_iff).guarded.bind
      fun _ => reports_pure _
  | get id =>
    exact (s.settles_path _ _ fun _ => sends_read _ readFault_iff).guarded.bind
      fun _ => reports_pure _
  | delete id =>
    exact (s.settles_path _ _ fun _ => sends_send _ fun _ _ => Iff.rfl).guarded.bind
      fun _ => reports_pure _
  | bulkDelete ids =>
    exact (s.settles_path _ _ fun _ => sends_send _ fun _ _ => Iff.rfl).guarded.bind
      fun _ => reports_pure _
  | list query params page =>
    exact (settles_getAll query params page).bind fun _ => reports_pure _
  | importFile file headers =>
    exact (s.settles_path _ _ fun _ => sends_read _ listFault_iff).guarded.bind
      fun _ => reports_pure _
  | execute request =>
    exact (sends_execute request).settles.bind fun _ => reports_pure _

omit [Entity E] in
theorem run_execute_read {α σ : Type} (transport : Transport σ) (s : EntityService E)
    (request : Request) (read : Json → Except ApiError α) (counter : Counter) (state : σ) :
    run transport (s.execute request >>= fun reply => Call.ofExcept (read reply)).run counter
        state =
      ⟨(transport state request).1 >>= read, [(.request request, counter.count + 1)],
        counter.acquire.release, (transport state request).2⟩ := by
  have hrun : run transport (s.execute request).run counter state =
      ⟨(transport state request).1, [(.request request, counter.count + 1)],
        counter.acquire.release, (transport state request).2⟩ := by
    rw [execute, Call.run_guarded]
    rfl
  cases hreply : (transport state request).1 with
  | error cause =>
    rw [run_bind_of_error _ (by rw [hrun, hreply]), hrun]
    rfl
  | ok value =>
    rw [run_bind_of_ok _ (by rw [hrun, hreply]), hrun]
    rfl

omit [Entity E] in
theorem sends_execute_read {α : Type} (s : EntityService E) (request : Request)
    (read : Json → Except ApiError α) :
    (s.execute request >>= fun reply => Call.ofExcept (read reply)).Sends (ReadFault read) :=
  sends_of_single request read (fun script counter sent =>
    ⟨_, _, run_execute_read script.transport s request read counter sent⟩) readFault_iff

end EntityService

/-! ## The service for mappings and all services -/

namespace MappingService

def refusal? (s : MappingService) : Task → Option ApiError
  | .entities task => s.entities.refusal? task
  | .loadAll => s.entities.refusal? (.list Mapping.blank [] .all)
  | .bulkSave _ => s.entities.blocked? (s.entities.endpoints.action "bulk_save") []
  | .bulkDeleteByFields _ => s.entities.blocked? (s.entities.endpoints.action "bulk_delete") []

def Fault (s : MappingService) : Task → Reply → ApiError → Prop
  | .entities task => s.entities.Fault task.reading
  | .loadAll => s.entities.Fault .list
  | .bulkSave _ => ReadFault SaveAck.ofReply
  | .bulkDeleteByFields _ => ReadFault DeleteAck.ofReply

theorem settles_perform (s : MappingService) (task : Task) :
    (s.perform task).Settles (s.refusal? task) (s.Fault task) := by
  cases task with
  | entities task => exact (s.entities.settles_perform task).bind fun _ => reports_pure _
  | loadAll =>
    have hlist := EntityService.settles_getAll (s := s.entities) Mapping.blank [] .all
    exact (hlist.bind fun _ => reports_pure _).guarded.bind fun _ => reports_pure _
  | bulkSave groups =>
    exact (s.entities.settles_path _ _ fun _ => s.entities.sends_execute_read _ _).bind
      fun _ => reports_pure _
  | bulkDeleteByFields fields =>
    exact (s.entities.settles_path _ _ fun _ => s.entities.sends_execute_read _ _).bind
      fun _ => reports_pure _

end MappingService

namespace Services

def refusal? (s : Services) : Task → Option ApiError
  | .merchants task => s.merchants.refusal? task
  | .mappings task => s.mappings.refusal? task

def Fault (s : Services) : Task → Reply → ApiError → Prop
  | .merchants task => s.merchants.Fault task.reading
  | .mappings task => s.mappings.Fault task

theorem settles_perform (s : Services) (task : Task) :
    (s.perform task).Settles (s.refusal? task) (s.Fault task) := by
  cases task with
  | merchants task => exact (s.merchants.settles_perform task).bind fun _ => reports_pure _
  | mappings task => exact (s.mappings.settles_perform task).bind fun _ => reports_pure _

end Services

/-! ## Sessions with refused tasks -/

namespace Call

variable {α ι σ Task : Type} [DecidableEq ι] (transport : Transport σ)

theorem Quiet.runAmong {x : Call α} {result : Except ApiError α} (hx : x.Quiet result)
    {depth : Nat} (hnested : x.Nested depth) (service : ι) (counters : ι → Counter) (state : σ) :
    counts (Activity.runAmong transport service x.run counters state).counters =
        counts counters ∧
      (Activity.runAmong transport service x.run counters state).state = state := by
  obtain ⟨-, -, hstate⟩ := hx σ transport (counters service) state
  refine ⟨(hnested.keeps transport service counters state).kept, ?_⟩
  rw [runAmong_eq]
  exact hstate

/-- Without a quiet task a session is the same, but for the entry of the task. -/
theorem session_eraseIdx {service : Task → ι} {perform : Task → Call α} {depth : Task → Nat}
    (hnested : ∀ task, (perform task).Nested (depth task)) {tasks : List Task} {i : Nat}
    {task : Task} (htask : tasks[i]? = some task) {result : Except ApiError α}
    (hquiet : (perform task).Quiet result) (counters : ι → Counter) (state : σ) :
    (session transport service (fun task => (perform task).run) tasks counters state).eraseIdx i =
      session transport service (fun task => (perform task).run) (tasks.eraseIdx i) counters
        state := by
  induction tasks generalizing i counters state with
  | nil => simp at htask
  | cons first tasks ih =>
    cases i with
    | zero =>
      obtain rfl : first = task := by simpa using htask
      obtain ⟨hcounts, hstate⟩ :=
        hquiet.runAmong transport (hnested first) (service first) counters state
      simp only [session, List.eraseIdx_cons_zero]
      rw [hstate]
      exact session_of_counts_eq transport tasks hcounts state
    | succ i =>
      simp only [session, List.eraseIdx_cons_succ]
      rw [ih (by simpa using htask)]

end Call

/-- What is promised of tasks that may fail.  Nothing is sent exactly when a
task is refused, and then the refusal is its result and no reply is used up.
Otherwise the result is the first fault in the replies, after which nothing is
sent.  A session in which a refused task is left out is otherwise the same. -/
structure FailsCleanly {Task α : Type} (perform : Task → Call α)
    (refusal? : Task → Option ApiError) (Fault : Task → Reply → ApiError → Prop) : Prop where
  sends_nothing_iff : ∀ (task : Task) (script : Script) (counter : Counter) (sent : Nat),
    requestsOf (run script.transport (perform task).run counter sent).log = [] ↔
      ∃ cause, refusal? task = some cause
  refused : ∀ (task : Task) (cause : ApiError), refusal? task = some cause →
    ∀ (script : Script) (counter : Counter) (sent : Nat),
      (run script.transport (perform task).run counter sent).result = .error cause ∧
        (run script.transport (perform task).run counter sent).state = sent
  reports : ∀ task, refusal? task = none →
    ∀ (script : Script) (counter : Counter) (sent : Nat),
      (run script.transport (perform task).run counter sent).Reports script (Fault task) sent
  left_out : ∀ (ι : Type) [DecidableEq ι] (service : Task → ι) (script : Script)
    (tasks : List Task) (i : Nat) (task : Task) (cause : ApiError),
    tasks[i]? = some task → refusal? task = some cause →
      ∀ (counters : ι → Counter) (sent : Nat),
        (session script.transport service (fun task => (perform task).run) tasks counters
            sent).eraseIdx i =
          session script.transport service (fun task => (perform task).run) (tasks.eraseIdx i)
            counters sent

theorem failsCleanly_of_settles {Task α : Type} {perform : Task → Call α}
    {refusal? : Task → Option ApiError} {Fault : Task → Reply → ApiError → Prop}
    {depth : Task → Nat} (hnested : ∀ task, (perform task).Nested (depth task))
    (hsettles : ∀ task, (perform task).Settles (refusal? task) (Fault task)) :
    FailsCleanly perform refusal? Fault where
  sends_nothing_iff task script counter sent := by
    cases hrefusal : refusal? task with
    | none =>
      have hsends := ((hsettles task).sends hrefusal).sends script counter sent
      exact ⟨fun hnothing => absurd hnothing hsends, nofun⟩
    | some cause =>
      obtain ⟨-, hnothing, -⟩ :=
        (hsettles task).refused cause hrefusal Nat script.transport counter sent
      exact ⟨fun _ => ⟨cause, rfl⟩, fun _ => hnothing⟩
  refused task cause hrefusal script counter sent := by
    obtain ⟨hresult, -, hstate⟩ :=
      (hsettles task).refused cause hrefusal Nat script.transport counter sent
    exact ⟨hresult, hstate⟩
  reports task hrefusal script counter sent :=
    ((hsettles task).sends hrefusal).reports script counter sent
  left_out _ _ _ script _ _ task cause htask hrefusal counters sent :=
    session_eraseIdx script.transport hnested htask ((hsettles task).refused cause hrefusal)
      counters sent

/-- Services for entities, the service for mappings and both together fail
cleanly at every task. -/
theorem fails_cleanly :
    (∀ (E : Type) [Entity E] (s : EntityService E),
      FailsCleanly s.perform s.refusal? fun task => s.Fault task.reading) ∧
    (∀ s : MappingService, FailsCleanly s.perform s.refusal? s.Fault) ∧
    ∀ s : Services, FailsCleanly s.perform s.refusal? s.Fault :=
  ⟨fun _ _ s => failsCleanly_of_settles s.nested_perform s.settles_perform,
    fun s => failsCleanly_of_settles s.nested_perform s.settles_perform,
    fun s => failsCleanly_of_settles s.nested_perform s.settles_perform⟩

def frozenUsers : EntityService User :=
  (EntityService.ofEndpoints (.rest "/users")).withBeforeUpdate
    fun _ => .error (.hookRejected "frozen")

def ping : Request := .get "/ping"

def lostPages : Script := ⟨[.error (.notFound "GET /ping")]⟩

theorem fails_cleanly_frozenUsers :
    frozenUsers.refusal? (.update User.blank) = some (.hookRejected "frozen") ∧
      (session lostPages.transport (fun _ => ()) (fun task => (frozenUsers.perform task).run)
          [.update User.blank, .execute ping] (fun _ => .fresh) 0).eraseIdx 0 =
        session lostPages.transport (fun _ => ()) (fun task => (frozenUsers.perform task).run)
          [.execute ping] (fun _ => .fresh) 0 ∧
      frozenUsers.refusal? (.execute ping) = none ∧
      frozenUsers.Fault .verbatim (lostPages.reply 0 ping) (.notFound "GET /ping") ∧
      (run lostPages.transport (frozenUsers.perform (.execute ping)).run .fresh 0).result =
        .error (.notFound "GET /ping") := by
  have hclean := fails_cleanly.1 User frozenUsers
  have hrefused : frozenUsers.refusal? (.update User.blank) = some (.hookRejected "frozen") := rfl
  have hfault : frozenUsers.Fault .verbatim (lostPages.reply 0 ping) (.notFound "GET /ping") := rfl
  have hreports := hclean.reports (.execute ping) rfl lostPages .fresh 0
  exact ⟨hrefused, hclean.left_out Unit _ lostPages _ 0 _ _ rfl hrefused _ 0, rfl, hfault,
    (hreports.first_fault 0 ping _ rfl hfault).1⟩

end MerchantApi
