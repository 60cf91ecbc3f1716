import MerchantApi.Proofs.Dispatch
import MerchantApi.Proofs.Sessions
/-!
# What comes of replies

An operation knows nothing of the server but the replies that it gets.  So what
holds of its result and of its replies, whatever these are, holds of every run
over every transport, and wherever in a session the operation stands.
-/

namespace MerchantApi

namespace Activity

variable {α β σ : Type}

def answers (transport : Transport σ) : List Request → σ → List Reply
  | [], _ => []
  | request :: requests, state =>
    (transport state request).1 :: answers transport requests (transport state request).2

def advance (transport : Transport σ) (requests : List Request) (state : σ) : σ :=
  requests.foldl (fun state request => (transport state request).2) state

private theorem advance_append (transport : Transport σ) (requests later : List Request)
    (state : σ) :
    advance transport (requests ++ later) state =
      advance transport later (advance transport requests state) :=
  List.foldl_append

/-- An activity that ends, whatever the replies to its requests are, with a result
that these replies allow. -/
def Ensures (P : List Reply → α → Prop) : Activity α → Prop
  | .finish result => P [] result
  | .acquire next => next.Ensures P
  | .release next => next.Ensures P
  | .hook _ _ next => next.Ensures P
  | .send _ resume => ∀ reply, (resume reply).Ensures fun later => P (reply :: later)

theorem Ensures.bind {x : Activity α} {f : α → Activity β} {P : List Reply → α → Prop}
    {Q : List Reply → β → Prop} (hx : x.Ensures P)
    (hf : ∀ replies a, P replies a → (f a).Ensures fun later => Q (replies ++ later)) :
    (x.bind f).Ensures Q := by
  induction x generalizing P Q with
  | finish result => exact hf [] result hx
  | acquire next ih => exact ih hx hf
  | release next ih => exact ih hx hf
  | hook stage entity next ih => exact ih hx hf
  | send request resume ih =>
    intro reply
    exact ih reply (hx reply) fun replies a => hf (reply :: replies) a

theorem Ensures.mono {x : Activity α} {P Q : List Reply → α → Prop} (hx : x.Ensures P)
    (h : ∀ replies a, P replies a → Q replies a) : x.Ensures Q := by
  induction x generalizing P Q with
  | finish result => exact h [] result hx
  | acquire next ih => exact ih hx h
  | release next ih => exact ih hx h
  | hook stage entity next ih => exact ih hx h
  | send request resume ih => exact fun reply => ih reply (hx reply) fun replies => h _

theorem Ensures.guarded {x : Activity α} {P : List Reply → α → Prop} (hx : x.Ensures P) :
    x.guarded.Ensures P := by
  refine Ensures.bind (x := x) hx fun replies a ha => ?_
  change P (replies ++ []) a
  rwa [List.append_nil]

variable (transport : Transport σ)

theorem Ensures.run {x : Activity α} {P : List Reply → α → Prop} (hx : x.Ensures P)
    (counter : Counter) (state : σ) :
    P (answers transport (requestsOf (run transport x counter state).log) state)
      (run transport x counter state).result := by
  induction x generalizing P counter state with
  | finish result => exact hx
  | acquire next ih => exact ih hx counter.acquire state
  | release next ih => exact ih hx counter.release state
  | hook stage entity next ih => exact ih hx counter state
  | send request resume ih =>
    exact ih (transport state request).1 (hx _) counter (transport state request).2

theorem state_run (x : Activity α) (counter : Counter) (state : σ) :
    (run transport x counter state).state =
      advance transport (requestsOf (run transport x counter state).log) state := by
  induction x generalizing counter state with
  | finish result => rfl
  | acquire next ih => exact ih counter.acquire state
  | release next ih => exact ih counter.release state
  | hook stage entity next ih => exact ih counter state
  | send request resume ih => exact ih _ counter (transport state request).2

/-! ## Entries of sessions -/

variable {ι Task : Type}

def requestsBefore (i : Nat) (entries : List (Entry ι α)) : List Request :=
  (entries.take i).flatMap fun entry => requestsOf entry.events

variable [DecidableEq ι] {service : Task → ι} {perform : Task → Activity α}

theorem requestsOf_entry (first : Task) (counters : ι → Counter) (state : σ) :
    requestsOf (runAmong transport (service first) (perform first) counters state).entry.events =
      requestsOf
        (Activity.run transport (perform first) (counters (service first)) state).log := by
  rw [entry_runAmong]
  exact requestsOf_map _ _

/-- What an activity ensures holds of its entry in a session, with the replies
that it gets where the requests before it have left the transport. -/
theorem Ensures.entry (service : Task → ι) (perform : Task → Activity α)
    {P : List Reply → α → Prop} {tasks : List Task} {i : Nat} {task : Task}
    (hensures : (perform task).Ensures P) (htask : tasks[i]? = some task)
    (counters : ι → Counter) (state : σ) :
    let entries := session transport service perform tasks counters state
    ∃ entry, entries[i]? = some entry ∧
      P (answers transport (requestsOf entry.events)
        (advance transport (requestsBefore i entries) state)) entry.result := by
  -- The operations after the first one start where its requests have left the transport.
  induction tasks generalizing i counters state with
  | nil => cases htask
  | cons first tasks ih =>
    cases i with
    | zero =>
      obtain rfl : first = task := Option.some.inj htask
      refine ⟨_, rfl, ?_⟩
      rw [requestsOf_entry, entry_runAmong]
      exact hensures.run transport (counters (service first)) state
    | succ i =>
      have hstate : (runAmong transport (service first) (perform first) counters state).state =
          advance transport (requestsOf (runAmong transport (service first) (perform first)
            counters state).entry.events) state := by
        rw [requestsOf_entry, runAmong_eq]
        exact state_run transport (perform first) (counters (service first)) state
      obtain ⟨entry, hentry, hP⟩ := ih htask
        (runAmong transport (service first) (perform first) counters state).counters
        (runAmong transport (service first) (perform first) counters state).state
      refine ⟨entry, hentry, ?_⟩
      rw [session, requestsBefore, List.take_succ_cons, List.flatMap_cons, advance_append,
        ← hstate]
      exact hP

end Activity

namespace Call

open Activity

variable {α β : Type} {P : List Reply → Except ApiError α → Prop}
  {Q : List Reply → Except ApiError β → Prop}

theorem ensures_pure {a : α} (h : P [] (.ok a)) : (pure a : Call α).run.Ensures P := h

theorem ensures_send (request : Request) :
    (send request).run.Ensures fun replies result => replies = [result] :=
  fun _ => rfl

theorem ensures_guarded {x : Call α} (hx : x.run.Ensures P) : (guarded x).run.Ensures P :=
  hx.guarded

theorem ensures_bind {x : Call α} {f : α → Call β} (hx : x.run.Ensures P)
    (herror : ∀ replies cause, P replies (.error cause) → Q replies (.error cause))
    (hok : ∀ replies a, P replies (.ok a) →
      (f a).run.Ensures fun later => Q (replies ++ later)) :
    (x >>= f).run.Ensures Q := by
  refine Ensures.bind (x := x.run) hx fun replies result hresult => ?_
  cases result with
  | error cause =>
    change Q (replies ++ []) (.error cause)
    rw [List.append_nil]
    exact herror replies cause hresult
  | ok a => exact hok replies a hresult

/-- A first step without a request fails or leaves everything to the rest. -/
theorem ensures_ofExcept_bind {result : Except ApiError α} {f : α → Call β}
    (herror : ∀ cause, Q [] (.error cause)) (hok : ∀ a, (f a).run.Ensures Q) :
    (ofExcept result >>= f).run.Ensures Q := by
  cases result with
  | error cause => exact herror cause
  | ok a => exact hok a

theorem ensures_hook_bind (stage : HookStage) (entity : Json) {result : Except ApiError α}
    {f : α → Call β} (herror : ∀ cause, Q [] (.error cause))
    (hok : ∀ a, (f a).run.Ensures Q) : (hook stage entity result >>= f).run.Ensures Q := by
  cases result with
  | error cause => exact herror cause
  | ok a => exact hok a

theorem ensures_bind_pure {x : Call α} {f : α → β}
    (hx : x.run.Ensures fun replies result => Q replies (result.map f)) :
    (x >>= fun a => pure (f a)).run.Ensures Q := by
  refine ensures_bind hx (fun _ _ hcause => hcause) fun replies a ha => ensures_pure ?_
  rw [List.append_nil]
  exact ha

theorem ensures_read (request : Request) (read : Json → Except ApiError α)
    (h : ∀ reply : Reply, P [reply] (reply >>= read)) :
    (send request >>= fun reply => ofExcept (read reply)).run.Ensures P := by
  refine ensures_bind (ensures_send request) ?_ ?_
  · rintro _ cause rfl
    exact h (.error cause)
  · rintro _ raw rfl
    exact h (.ok raw)

end Call

end MerchantApi
