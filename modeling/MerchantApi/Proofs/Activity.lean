import MerchantApi.Activity
/-!
# Runs of activities

A run of two activities in a row is the run of the first and, from where it
left the counter and the transport, the run of the second.  From this follow
the runs of operations that may fail and of operations that hold a guard, so
that no operation has to be followed step by step.
-/

namespace MerchantApi

namespace Activity

variable {α β σ : Type} (transport : Transport σ)

def Run.after (r : Run α σ) (log : List (Event × Nat)) : Run α σ :=
  { r with log := log ++ r.log }

theorem Run.seen_after (r : Run α σ) (log : List (Event × Nat)) (event : Event) (count : Nat) :
    (r.after log).seen event count = r.after ((event, count) :: log) := rfl

theorem run_bind (x : Activity α) (f : α → Activity β) (counter : Counter) (state : σ) :
    run transport (x.bind f) counter state =
      let first := run transport x counter state
      (run transport (f first.result) first.counter first.state).after first.log := by
  induction x generalizing counter state with
  | finish result => rfl
  | acquire next ih => exact ih counter.acquire state
  | release next ih => exact ih counter.release state
  | hook stage entity next ih =>
    simp only [bind, run, ih, Run.seen_after]
    rfl
  | send request resume ih =>
    simp only [bind, run, ih, Run.seen_after]
    rfl

theorem run_guarded (x : Activity α) (counter : Counter) (state : σ) :
    run transport x.guarded counter state =
      let inner := run transport x counter.acquire state
      { inner with counter := inner.counter.release } := by
  rw [guarded, run, run_bind]
  simp only [run, Run.after, List.append_nil]

/-- A transport that answers every request as another one does in some state. -/
def frozen (transport : Transport σ) (state : σ) : Transport Unit :=
  fun _ request => ((transport state request).1, ())

/-- As long as no request changes the state, a transport may as well be frozen. -/
theorem run_of_frozen {x : Activity α} {counter : Counter} {state : σ}
    (h : ∀ seen ∈ (run (frozen transport state) x counter ()).log, ∀ request,
      seen.1 = .request request → (transport state request).2 = state) :
    run transport x counter state =
      let r := run (frozen transport state) x counter ()
      ⟨r.result, r.log, r.counter, state⟩ := by
  induction x generalizing counter with
  | finish result => rfl
  | acquire next ih => exact ih h
  | release next ih => exact ih h
  | hook stage entity next ih =>
    simp only [run, ih (List.forall_mem_cons.1 h).2]
    rfl
  | send request resume ih =>
    obtain ⟨hrequest, hrest⟩ := List.forall_mem_cons.1 h
    simp only [run, hrequest request rfl]
    rw [ih _ hrest]
    rfl

def runRow : List (Activity α) → Counter → σ → List (Run α σ)
  | [], _, _ => []
  | x :: rest, counter, state =>
    let r := run transport x counter state
    r :: runRow rest r.counter r.state

end Activity

namespace Call

open Activity

variable {α β σ : Type} (transport : Transport σ)

theorem run_pure (a : α) (counter : Counter) (state : σ) :
    run transport (pure a : Call α).run counter state = ⟨.ok a, [], counter, state⟩ := rfl

theorem run_ofExcept_ok_bind (a : α) (f : α → Call β) (counter : Counter) (state : σ) :
    run transport (ofExcept (.ok a) >>= f).run counter state =
      run transport (f a).run counter state := rfl

theorem run_ofExcept_error_bind (cause : ApiError) (f : α → Call β) (counter : Counter)
    (state : σ) :
    run transport (ofExcept (.error cause) >>= f).run counter state =
      ⟨.error cause, [], counter, state⟩ := rfl

theorem run_send_bind_ofExcept (request : Request) (read : Json → Except ApiError α)
    (counter : Counter) (state : σ) :
    run transport (send request >>= fun reply => ofExcept (read reply)).run counter state =
      ⟨(transport state request).1 >>= read, [(.request request, counter.count)], counter,
        (transport state request).2⟩ := by
  change (run transport (ExceptT.bindCont (fun reply => ofExcept (read reply))
    (transport state request).1) counter (transport state request).2).seen _ _ = _
  cases (transport state request).1 with
  | error cause => rfl
  | ok reply => rfl

theorem run_bind_of_ok {x : Call α} {a : α} {counter : Counter} {state : σ}
    (h : (run transport x.run counter state).result = .ok a) (f : α → Call β) :
    run transport (x >>= f).run counter state =
      let first := run transport x.run counter state
      (run transport (f a).run first.counter first.state).after first.log := by
  change run transport (x.run.bind (ExceptT.bindCont f)) counter state = _
  rw [run_bind]
  simp only [h]
  rfl

theorem run_bind_of_error {x : Call α} {cause : ApiError} {counter : Counter} {state : σ}
    (h : (run transport x.run counter state).result = .error cause) (f : α → Call β) :
    run transport (x >>= f).run counter state =
      let first := run transport x.run counter state
      ⟨.error cause, first.log, first.counter, first.state⟩ := by
  change run transport (x.run.bind (ExceptT.bindCont f)) counter state = _
  rw [run_bind]
  simp only [h, ExceptT.bindCont, pure_def, run, Run.after, List.append_nil]

theorem run_bind_pure (x : Call α) (f : α → β) (counter : Counter) (state : σ) :
    run transport (x >>= fun a => pure (f a)).run counter state =
      let r := run transport x.run counter state
      ⟨r.result.map f, r.log, r.counter, r.state⟩ := by
  cases hresult : (run transport x.run counter state).result with
  | error cause =>
    simp only [run_bind_of_error transport hresult, hresult]
    rfl
  | ok a =>
    simp only [run_bind_of_ok transport hresult, hresult, run_pure, Run.after, List.append_nil]
    rfl

theorem run_guarded (x : Call α) (counter : Counter) (state : σ) :
    run transport (guarded x).run counter state =
      let inner := run transport x.run counter.acquire state
      { inner with counter := inner.counter.release } :=
  Activity.run_guarded transport x.run counter state

end Call

end MerchantApi
