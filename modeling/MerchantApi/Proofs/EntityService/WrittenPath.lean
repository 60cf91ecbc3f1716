import MerchantApi.InFlight
import MerchantApi.Proofs.EndpointSet
import MerchantApi.Proofs.Entity.Scalars
import MerchantApi.Proofs.Entity.Stability
import MerchantApi.Proofs.EntityService.Write
/-!
# Where an entity is written

The path and the body of a request that writes an entity come from the same
entity, which is what the hook returned.  A placeholder of the path is replaced
by the text of the member of its name, whatever the entity was before the hook
and whatever is fixed for the path.
-/

namespace MerchantApi

namespace EntityService

open Activity Call

variable {E σ : Type} [Entity E]

def hookEvents (stage : HookStage) (hook : Option (E → Except ApiError E)) (e : E) :
    List Event :=
  match hook with
  | none => []
  | some _ => [.hook stage (Entity.json e)]

/-- The parameter of a name for the path of a body: the text of the scalar member
of that name, or else the fixed parameter. -/
def bodyParam (body : Json) (fixed : Members String) (name : String) : Option String :=
  ((body.member? name).bind Json.scalarText?).or (Members.get? fixed name)

/-- A request that writes an entity as its hook returned it, after the only call of
the hook, under a path with the parameters of its own body. -/
structure WritesBody (s : EntityService E) (stage : HookStage)
    (hook : Option (E → Except ApiError E)) (t : Template) (method : String) (e : E)
    (events : List Event) (request : Request) (written : E) : Prop where
  hooked : EntityService.hooked hook e = .ok written
  events : events = hookEvents stage hook e ++ [.request request]
  method : request.method = method
  query : request.query = []
  body : request.body = .json (Entity.json written)
  path : ∃ pieces, Piece.Cuts t.source.toList pieces ∧
    Piece.Replaced (bodyParam (Entity.json written) s.pathParams) pieces request.path.toList

/-- An operation that follows its hook: it sends one request when the hook lets the
entity pass and the path can be made of what the hook returned, and whatever it sends
is that entity. -/
structure FollowsHook (s : EntityService E) (stage : HookStage)
    (hook : Option (E → Except ApiError E)) (t : Template) (method : String) (e : E)
    (log : List (Event × Nat)) : Prop where
  sends : ∀ written path, hooked hook e = .ok written →
    t.resolve (bodyParam (Entity.json written) s.pathParams) = .ok path →
      ∃ request, requestsOf log = [request]
  writes : ∀ request ∈ requestsOf log,
    ∃ written, s.WritesBody stage hook t method e (log.map Prod.fst) request written

/-! ## The run of a write -/

section Run

variable {s : EntityService E} {hook : Option (E → Except ApiError E)} {e written : E}
  (stage : HookStage) (t : Template) (send : String → Request) (transport : Transport σ)
  (counter : Counter) (state : σ)

private theorem run_applyHook (hook : Option (E → Except ApiError E)) (e : E) :
    run transport (applyHook stage hook e).run counter state =
      ⟨hooked hook e, (hookEvents stage hook e).map (·, counter.count), counter, state⟩ := by
  cases hook <;> rfl

private theorem events_writing {path : String} (h : hooked hook e = .ok written)
    (hpath : s.resolvePath t (Entity.params written) = .ok path) :
    (run transport (s.writing stage hook t send e).run counter state).log.map Prod.fst =
      hookEvents stage hook e ++ [.request ((send path).withJson (Entity.json written))] := by
  have hhook := run_applyHook stage transport counter state hook e
  have hresult : (run transport (applyHook stage hook e).run counter state).result =
      .ok written := by rw [hhook, h]
  rw [writing, run_bind_of_ok transport hresult, hhook, hpath]
  simp only [run_ofExcept_ok_bind, run_send_bind_ofExcept, Run.after, List.map_append,
    List.map_map, List.map_cons, List.map_nil]
  exact congrArg (· ++ _) (List.map_id _)

theorem exists_written_of_mem {request : Request}
    (h : request ∈ requestsOf (run transport (s.writing stage hook t send e).run counter
      state).log) :
    ∃ written path, hooked hook e = .ok written ∧
      s.resolvePath t (Entity.params written) = .ok path ∧
      request = (send path).withJson (Entity.json written) := by
  cases hhook : hooked hook e with
  | error cause =>
    obtain ⟨-, hnone, -⟩ := quiet_writing_of_hook (s := s) stage t send hhook σ transport counter
      state
    rw [hnone] at h
    cases h
  | ok written =>
    cases hpath : s.resolvePath t (Entity.params written) with
    | error cause =>
      obtain ⟨-, hnone, -⟩ := quiet_writing_of_path stage t send hhook hpath σ transport counter
        state
      rw [hnone] at h
      cases h
    | ok path =>
      rw [requestsOf_writing stage t send transport hhook hpath, List.mem_singleton] at h
      exact ⟨written, path, rfl, hpath, h⟩

end Run

/-! ## The parameters of the path -/

section Path

variable [Entity.Ordered E]

theorem resolvePath_params (s : EntityService E) (t : Template) (e : E) :
    s.resolvePath t (Entity.params e) = t.resolve (bodyParam (Entity.json e) s.pathParams) := by
  rw [resolvePath]
  exact congrArg _ (funext fun name => by rw [Entity.get?_params]; rfl)

/-- A write follows its hook, under whatever template and method. -/
theorem followsHook_writing (s : EntityService E) (stage : HookStage)
    (hook : Option (E → Except ApiError E)) (t : Template) (method : String) (e : E)
    (transport : Transport σ) (counter : Counter) (state : σ) :
    s.FollowsHook stage hook t method e (run transport (Call.guarded
      (s.writing stage hook t (Request.plain method) e)).run counter state).log := by
  rw [Call.run_guarded]
  constructor
  · intro written path hhook hpath
    rw [← resolvePath_params] at hpath
    exact ⟨_, requestsOf_writing stage t _ transport hhook hpath counter.acquire state⟩
  · intro request hrequest
    obtain ⟨written, path, hhook, hpath, rfl⟩ :=
      exists_written_of_mem stage t _ transport counter.acquire state hrequest
    have hevents := events_writing stage t (Request.plain method) transport counter.acquire state
      hhook hpath
    rw [resolvePath_params] at hpath
    exact ⟨written, hhook, hevents, rfl, rfl, rfl, Template.resolve_eq_ok_iff_replaced.1 hpath⟩

end Path

/-- Under a conventional layout an entity is written to the item of its identifier. -/
theorem exists_collection_of_rest {base path : String} {params : String → Option String}
    {id : String} (hid : params "id" = some id)
    (hpath : (EndpointSet.rest base).update.resolve params = .ok path) :
    ∃ collection, (Template.mk (Text.dropTrailingSlashes base)).resolve params = .ok collection ∧
      path = collection ++ "/" ++ id := by
  obtain ⟨collection, other, hcollection, hother, rfl⟩ :=
    EndpointSet.resolve_item_eq_ok_iff.1 (show (EndpointSet.rest base).get.resolve params = _
      from hpath)
  obtain rfl : id = other := Option.some.inj (hid.symm.trans hother)
  exact ⟨collection, hcollection, rfl⟩

/-- What is sent to create or update an entity is the entity as its hook returned
it, and the path names that entity: its scalar members come before the fixed
parameters.  Under a conventional layout an update goes to the item whose
identifier is in the body, where users, merchants and mappings always have one. -/
theorem path_and_body_agree :
    (∀ (E : Type) [Entity E] [Entity.Ordered E] (s : EntityService E) (e : E) (σ : Type)
        (transport : Transport σ) (counter : Counter) (state : σ),
      let created := run transport (s.create e).run counter state
      let updated := run transport (s.update e).run counter state
      s.FollowsHook .beforeCreate s.beforeCreate s.endpoints.create "POST" e created.log ∧
      s.FollowsHook .beforeUpdate s.beforeUpdate s.endpoints.update "PUT" e updated.log ∧
      ∀ base request written id, s.endpoints = .rest base →
        s.WritesBody .beforeUpdate s.beforeUpdate s.endpoints.update "PUT" e
          (updated.log.map Prod.fst) request written →
        (Entity.json written).member? "id" = some (.ofUInt64 id) →
          ∃ collection, (Template.mk (Text.dropTrailingSlashes base)).resolve
              (bodyParam (Entity.json written) s.pathParams) = .ok collection ∧
            request.path = collection ++ "/" ++ toString id.toNat) ∧
    ∀ (kind : EntityKind) (e : kind.Carrier),
      (Entity.json e).member? "id" = some (.ofUInt64 (Entity.id e)) := by
  constructor
  · intro E _ _ s e σ transport counter state
    refine ⟨?_, ?_, fun base request written id hrest hwrites hid => ?_⟩
    · exact s.followsHook_writing .beforeCreate s.beforeCreate s.endpoints.create "POST" e
        transport counter state
    · exact s.followsHook_writing .beforeUpdate s.beforeUpdate s.endpoints.update "PUT" e
        transport counter state
    · have hpath := Template.resolve_eq_ok_iff_replaced.2 hwrites.path
      rw [hrest] at hpath
      apply exists_collection_of_rest _ hpath
      rw [bodyParam, hid, Option.bind_some, Json.scalarText?_ofUInt64]
      rfl
  · intro kind e
    cases kind <;> rfl

def renumbering : EntityService User :=
  (((ofEndpoints (.rest "/teams/\x7bteam\x7d/users")).withPathParam "id" "9").withPathParam
    "team" "4").withBeforeUpdate fun u => .ok { u with id := 5 }

def mira : User := { User.blank with id := 1, username := "mira" }

theorem path_and_body_agree_renumbering :
    ∃ request, requestsOf (run (Script.mk []).transport (renumbering.update mira).run .fresh
        0).log = [request] ∧
      request.path = "/teams/4/users/5" ∧
      request.body = .json (Entity.json { mira with id := 5 }) := by
  have hparent : ((Template.mk (Text.dropTrailingSlashes "/teams/\x7bteam\x7d/users")).resolve
      (bodyParam (Entity.json { mira with id := 5 }) renumbering.pathParams)).toOption =
      some "/teams/4/users" := by
    decide +kernel
  have hitem : (renumbering.endpoints.update.resolve
      (bodyParam (Entity.json { mira with id := 5 }) renumbering.pathParams)).toOption =
      some "/teams/4/users/5" := by
    decide +kernel
  cases hpath : renumbering.endpoints.update.resolve
      (bodyParam (Entity.json { mira with id := 5 }) renumbering.pathParams) with
  | error cause =>
    rw [hpath] at hitem
    cases hitem
  | ok path =>
    obtain ⟨-, hfollows, hrest⟩ := path_and_body_agree.1 User renumbering mira Nat
      (Script.mk []).transport .fresh 0
    obtain ⟨request, hsent⟩ := hfollows.sends { mira with id := 5 } path rfl hpath
    obtain ⟨written, hwrites⟩ := hfollows.writes request (by
      rw [hsent]
      exact List.mem_singleton_self request)
    obtain rfl : { mira with id := 5 } = written := Except.ok.inj hwrites.hooked
    obtain ⟨collection, hcollection, hrequest⟩ :=
      hrest _ request _ 5 rfl hwrites (path_and_body_agree.2 .user _)
    rw [hcollection] at hparent
    obtain rfl : collection = "/teams/4/users" := Option.some.inj hparent
    exact ⟨request, hsent, hrequest, hwrites.body⟩

end EntityService

end MerchantApi
