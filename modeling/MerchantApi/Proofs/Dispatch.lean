import MerchantApi.InFlight
import MerchantApi.Proofs.Activity
/-!
# How operations end

An operation is quiet when it ends before it sends anything.  Any other one
reports the first fault that it meets in the replies to its requests: the fault
is its result, and no request follows it.  Both are kept when operations are
put together, so that they can be read off from the parts.
-/

namespace MerchantApi

namespace Activity

variable {α κ : Type}

def requestsOf (log : List (Event × κ)) : List Request :=
  log.filterMap fun seen =>
    match seen.1 with
    | .hook _ _ => none
    | .request request => some request

@[simp] theorem requestsOf_nil : requestsOf ([] : List (Event × κ)) = [] := rfl

@[simp] theorem requestsOf_append (log later : List (Event × κ)) :
    requestsOf (log ++ later) = requestsOf log ++ requestsOf later :=
  List.filterMap_append

@[simp] theorem requestsOf_hook (stage : HookStage) (entity : Json) (now : κ)
    (log : List (Event × κ)) :
    requestsOf ((.hook stage entity, now) :: log) = requestsOf log := rfl

@[simp] theorem requestsOf_request (request : Request) (now : κ) (log : List (Event × κ)) :
    requestsOf ((.request request, now) :: log) = request :: requestsOf log := rfl

theorem requestsOf_map {ν : Type} (change : κ → ν) (log : List (Event × κ)) :
    requestsOf (log.map fun seen => (seen.1, change seen.2)) = requestsOf log := by
  rw [requestsOf, requestsOf, List.filterMap_map]
  rfl

/-- A run that used up one reply of a script for each of its requests, and whose
result is the first fault in them, after which it sent nothing. -/
structure Run.Reports (script : Script) (Fault : Reply → ApiError → Prop) (sent : Nat)
    (r : Run (Except ApiError α) Nat) : Prop where
  state : r.state = sent + (requestsOf r.log).length
  first_fault : ∀ (i : Nat) (request : Request) (cause : ApiError),
    (requestsOf r.log)[i]? = some request → Fault (script.reply (sent + i) request) cause →
      r.result = .error cause ∧ (requestsOf r.log).length = i + 1
  no_fault : (∀ (i : Nat) (request : Request) (cause : ApiError),
    (requestsOf r.log)[i]? = some request → ¬ Fault (script.reply (sent + i) request) cause) →
      ∃ a, r.result = .ok a

end Activity

namespace Call

open Activity

variable {α β : Type} {Fault : Reply → ApiError → Prop}

/-- An operation that has a result before it sends anything. -/
def Quiet (x : Call α) (result : Except ApiError α) : Prop :=
  ∀ (σ : Type) (transport : Transport σ) (counter : Counter) (state : σ),
    (run transport x.run counter state).result = result ∧
      requestsOf (run transport x.run counter state).log = [] ∧
      (run transport x.run counter state).state = state

def Reports (Fault : Reply → ApiError → Prop) (x : Call α) : Prop :=
  ∀ (script : Script) (counter : Counter) (sent : Nat),
    (run script.transport x.run counter sent).Reports script Fault sent

structure Sends (Fault : Reply → ApiError → Prop) (x : Call α) : Prop where
  reports : x.Reports Fault
  sends : ∀ (script : Script) (counter : Counter) (sent : Nat),
    requestsOf (run script.transport x.run counter sent).log ≠ []

/-- An operation that is refused before it sends anything, or else sends. -/
structure Settles (refusal : Option ApiError) (Fault : Reply → ApiError → Prop) (x : Call α) :
    Prop where
  refused : ∀ cause, refusal = some cause → x.Quiet (.error cause)
  sends : refusal = none → x.Sends Fault

/-! ### Quiet operations -/

theorem quiet_ofExcept (result : Except ApiError α) : (ofExcept result).Quiet result :=
  fun _ _ _ _ => ⟨rfl, rfl, rfl⟩

theorem quiet_hook (stage : HookStage) (entity : Json) (result : Except ApiError α) :
    (hook stage entity result).Quiet result :=
  fun _ _ _ _ => ⟨rfl, rfl, rfl⟩

theorem Quiet.guarded {x : Call α} {result : Except ApiError α} (hx : x.Quiet result) :
    (guarded x).Quiet result := by
  intro σ transport counter state
  rw [run_guarded]
  exact hx σ transport counter.acquire state

theorem Quiet.bind_error {x : Call α} {cause : ApiError} (hx : x.Quiet (.error cause))
    (f : α → Call β) : (x >>= f).Quiet (.error cause) := by
  intro σ transport counter state
  obtain ⟨hresult, hlog, hstate⟩ := hx σ transport counter state
  rw [run_bind_of_error transport hresult]
  exact ⟨rfl, hlog, hstate⟩

theorem Quiet.bind_ok {x : Call α} {a : α} (hx : x.Quiet (.ok a)) {f : α → Call β}
    {result : Except ApiError β} (hf : (f a).Quiet result) : (x >>= f).Quiet result := by
  intro σ transport counter state
  obtain ⟨hresult, hlog, hstate⟩ := hx σ transport counter state
  obtain ⟨hresult', hlog', hstate'⟩ := hf σ transport
    (run transport x.run counter state).counter (run transport x.run counter state).state
  rw [run_bind_of_ok transport hresult]
  refine ⟨hresult', ?_, hstate'.trans hstate⟩
  simp [Run.after, hlog, hlog']

/-! ### Operations that report -/

theorem reports_pure (a : α) : (pure a : Call α).Reports Fault := by
  intro script counter sent
  rw [run_pure]
  exact ⟨rfl, fun i request cause hi => by simp at hi, fun _ => ⟨a, rfl⟩⟩

theorem Reports.guarded {x : Call α} (hx : x.Reports Fault) : (guarded x).Reports Fault := by
  intro script counter sent
  have hinner := hx script counter.acquire sent
  rw [run_guarded]
  exact ⟨hinner.state, hinner.first_fault, hinner.no_fault⟩

/-- A later operation reports as well, since the earlier one met no fault then. -/
theorem Reports.bind {x : Call α} {f : α → Call β} (hx : x.Reports Fault)
    (hf : ∀ a, (f a).Reports Fault) : (x >>= f).Reports Fault := by
  intro script counter sent
  have hfirst := hx script counter sent
  cases hresult : (run script.transport x.run counter sent).result with
  | error cause =>
    rw [run_bind_of_error _ hresult]
    refine ⟨hfirst.state, fun i request other hi hfault => ?_, fun hnone => ?_⟩
    · obtain ⟨hother, hlength⟩ := hfirst.first_fault i request other hi hfault
      rw [hresult] at hother
      exact ⟨congrArg Except.error (Except.error.inj hother), hlength⟩
    · obtain ⟨a, ha⟩ := hfirst.no_fault hnone
      rw [hresult] at ha
      cases ha
  | ok a =>
    have hrest := hf a script (run script.transport x.run counter sent).counter
      (run script.transport x.run counter sent).state
    rw [hfirst.state] at hrest
    rw [run_bind_of_ok _ hresult]
    simp only [hfirst.state]
    -- A request of the second operation comes after all those of the first.
    constructor
    · simp only [Run.after, requestsOf_append, List.length_append]
      rw [hrest.state]
      omega
    · intro i request cause hi hfault
      simp only [Run.after, requestsOf_append, List.length_append] at hi ⊢
      by_cases hlt : i < (requestsOf (run script.transport x.run counter sent).log).length
      · rw [List.getElem?_append_left hlt] at hi
        obtain ⟨herror, -⟩ := hfirst.first_fault i request cause hi hfault
        rw [hresult] at herror
        cases herror
      · have hle := Nat.le_of_not_lt hlt
        rw [List.getElem?_append_right hle] at hi
        rw [← Nat.add_sub_of_le hle, ← Nat.add_assoc] at hfault
        obtain ⟨herror, hlength⟩ := hrest.first_fault _ request cause hi hfault
        exact ⟨herror, by omega⟩
    · intro hnone
      apply hrest.no_fault
      intro i request cause hi hfault
      simp only [Run.after, requestsOf_append] at hnone
      refine hnone (_ + i) request cause ?_ (Nat.add_assoc .. ▸ hfault)
      rw [List.getElem?_append_right (Nat.le_add_right _ _), Nat.add_sub_cancel_left]
      exact hi

theorem Reports.congr {Other : Reply → ApiError → Prop} {x : Call α} (hx : x.Reports Fault)
    (h : ∀ reply cause, Fault reply cause ↔ Other reply cause) : x.Reports Other := by
  have heq : Fault = Other := funext fun reply => funext fun cause => propext (h reply cause)
  exact heq ▸ hx

theorem sends_of_single {x : Call α} (request : Request) (read : Json → Except ApiError α)
    (hrun : ∀ (script : Script) (counter : Counter) (sent : Nat), ∃ count after,
      run script.transport x.run counter sent =
        ⟨script.reply sent request >>= read, [(.request request, count)], after, sent + 1⟩)
    (hfault : ∀ reply cause, Fault reply cause ↔ reply >>= read = .error cause) :
    x.Sends Fault := by
  constructor
  · intro script counter sent
    obtain ⟨count, after, heq⟩ := hrun script counter sent
    rw [heq]
    refine ⟨rfl, fun i sentRequest cause hi hfound => ?_, fun hnone => ?_⟩
    · obtain ⟨hi, hrequest⟩ := List.getElem?_eq_some_iff.1 hi
      obtain rfl : i = 0 := Nat.lt_one_iff.1 hi
      obtain rfl : request = sentRequest := hrequest
      exact ⟨(hfault _ _).1 hfound, rfl⟩
    · cases hresult : script.reply sent request >>= read with
      | ok a => exact ⟨a, rfl⟩
      | error cause => exact absurd ((hfault _ _).2 hresult) (hnone 0 request cause rfl)
  · intro script counter sent
    obtain ⟨count, after, heq⟩ := hrun script counter sent
    rw [heq]
    exact List.cons_ne_nil _ _

theorem sends_read (request : Request) {read : Json → Except ApiError α}
    (hfault : ∀ reply cause, Fault reply cause ↔ reply >>= read = .error cause) :
    (send request >>= fun reply => ofExcept (read reply)).Sends Fault := by
  refine sends_of_single request read (fun script counter sent => ?_) hfault
  rw [run_send_bind_ofExcept]
  exact ⟨_, _, rfl⟩

theorem sends_send (request : Request)
    (hfault : ∀ reply cause, Fault reply cause ↔ reply = .error cause) :
    (send request).Sends Fault := by
  refine sends_of_single request .ok (fun script counter sent => ?_) ?_
  · have hread : (script.reply sent request >>= .ok) = script.reply sent request := bind_pure _
    rw [hread]
    exact ⟨_, _, rfl⟩
  · intro reply cause
    have hread : (reply >>= .ok) = reply := bind_pure reply
    rw [hread]
    exact hfault reply cause

theorem Sends.guarded {x : Call α} (hx : x.Sends Fault) : (guarded x).Sends Fault := by
  refine ⟨hx.reports.guarded, fun script counter sent => ?_⟩
  rw [run_guarded]
  exact hx.sends script counter.acquire sent

theorem Sends.bind {x : Call α} {f : α → Call β} (hx : x.Sends Fault)
    (hf : ∀ a, (f a).Reports Fault) : (x >>= f).Sends Fault := by
  refine ⟨hx.reports.bind hf, fun script counter sent => ?_⟩
  have hsends := hx.sends script counter sent
  cases hresult : (run script.transport x.run counter sent).result with
  | error cause =>
    rw [run_bind_of_error _ hresult]
    exact hsends
  | ok a =>
    rw [run_bind_of_ok _ hresult]
    simp [Run.after, hsends]

theorem Sends.of_quiet {x : Call α} {a : α} (hx : x.Quiet (.ok a)) {f : α → Call β}
    (hf : (f a).Sends Fault) : (x >>= f).Sends Fault := by
  constructor
  · intro script counter sent
    obtain ⟨hresult, hlog, hstate⟩ := hx Nat script.transport counter sent
    have hrest := hf.reports script (run script.transport x.run counter sent).counter sent
    rw [run_bind_of_ok _ hresult]
    simp only [hstate]
    constructor
    · simpa [Run.after, hlog] using hrest.state
    · simpa [Run.after, hlog] using hrest.first_fault
    · simpa [Run.after, hlog] using hrest.no_fault
  · intro script counter sent
    obtain ⟨hresult, hlog, hstate⟩ := hx Nat script.transport counter sent
    rw [run_bind_of_ok _ hresult]
    simpa [Run.after, hlog] using hf.sends script _ _

/-! ### Operations that are refused or send -/

theorem Settles.guarded {refusal : Option ApiError} {x : Call α}
    (hx : x.Settles refusal Fault) : (guarded x).Settles refusal Fault :=
  ⟨fun cause hcause => (hx.refused cause hcause).guarded, fun hnone => (hx.sends hnone).guarded⟩

theorem Settles.bind {refusal : Option ApiError} {x : Call α} {f : α → Call β}
    (hx : x.Settles refusal Fault) (hf : ∀ a, (f a).Reports Fault) :
    (x >>= f).Settles refusal Fault :=
  ⟨fun cause hcause => (hx.refused cause hcause).bind_error f,
    fun hnone => (hx.sends hnone).bind hf⟩

theorem Sends.settles {x : Call α} (hx : x.Sends Fault) : x.Settles none Fault :=
  ⟨nofun, fun _ => hx⟩

/-- A first step that sends nothing refuses the whole or passes it on. -/
theorem settles_of_quiet {x : Call α} {result : Except ApiError α} (hx : x.Quiet result)
    {f : α → Call β} {refusal : Option ApiError}
    (herror : ∀ cause, result = .error cause → refusal = some cause)
    (hok : ∀ a, result = .ok a → (f a).Settles refusal Fault) :
    (x >>= f).Settles refusal Fault := by
  cases result with
  | error cause =>
    have hrefusal := herror cause rfl
    constructor
    · intro other hother
      obtain rfl : cause = other := Option.some.inj (hrefusal.symm.trans hother)
      exact hx.bind_error f
    · intro hnone
      rw [hrefusal] at hnone
      cases hnone
  | ok a =>
    have hrest := hok a rfl
    constructor
    · intro cause hcause
      exact hx.bind_ok (hrest.refused cause hcause)
    · intro hnone
      exact .of_quiet hx (hrest.sends hnone)

end Call

end MerchantApi
