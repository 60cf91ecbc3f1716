import MerchantApi.Proofs.Refusals
/-!
# Writing an entity

Creating and updating are one operation at two endpoints: the entity passes its
hook, its path is made of what the hook returned, and that is sent.  So a run
of either is known from the hook and the path alone.
-/

namespace MerchantApi

namespace EntityService

open Activity Call

variable {E σ : Type} [Entity E]

def writing (s : EntityService E) (stage : HookStage) (hook : Option (E → Except ApiError E))
    (t : Template) (send : String → Request) (e : E) : Call E := do
  let e ← applyHook stage hook e
  let path ← Call.ofExcept (s.resolvePath t (Entity.params e))
  let reply ← Call.send ((send path).withJson (Entity.json e))
  Call.ofExcept (s.model reply)

variable {s : EntityService E} {hook : Option (E → Except ApiError E)} {e written : E}

theorem create_eq (s : EntityService E) (e : E) :
    s.create e = Call.guarded
      (s.writing .beforeCreate s.beforeCreate s.endpoints.create Request.post e) := rfl

theorem update_eq (s : EntityService E) (e : E) :
    s.update e = Call.guarded
      (s.writing .beforeUpdate s.beforeUpdate s.endpoints.update Request.put e) := rfl

variable (stage : HookStage) (t : Template) (send : String → Request)

theorem quiet_writing_of_hook {cause : ApiError} (h : hooked hook e = .error cause) :
    (s.writing stage hook t send e).Quiet (.error cause) := by
  have hquiet := quiet_applyHook stage hook e
  rw [h] at hquiet
  exact hquiet.bind_error _

theorem quiet_writing_of_path {cause : ApiError} (h : hooked hook e = .ok written)
    (hpath : s.resolvePath t (Entity.params written) = .error cause) :
    (s.writing stage hook t send e).Quiet (.error cause) := by
  have hquiet := quiet_applyHook stage hook e
  rw [h] at hquiet
  refine hquiet.bind_ok ?_
  rw [hpath]
  exact (quiet_ofExcept (.error cause)).bind_error _

theorem requestsOf_writing (transport : Transport σ) {path : String}
    (h : hooked hook e = .ok written)
    (hpath : s.resolvePath t (Entity.params written) = .ok path) (counter : Counter) (state : σ) :
    requestsOf (run transport (s.writing stage hook t send e).run counter state).log =
      [(send path).withJson (Entity.json written)] := by
  obtain ⟨hresult, hlog, -⟩ := quiet_applyHook stage hook e σ transport counter state
  rw [writing, run_bind_of_ok transport (hresult.trans h), hpath]
  simp only [run_ofExcept_ok_bind, run_send_bind_ofExcept, Run.after, requestsOf_append, hlog,
    requestsOf_request, requestsOf_nil, List.nil_append]

end EntityService

end MerchantApi
