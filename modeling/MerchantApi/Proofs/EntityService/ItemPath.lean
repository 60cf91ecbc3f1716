import MerchantApi.Proofs.Dispatch
import MerchantApi.Proofs.EndpointSet
import MerchantApi.Proofs.EntityService.PagedList
import Mathlib.Algebra.Order.BigOperators.Group.List
import Mathlib.Algebra.Order.Ring.Nat
/-!
# The path of an item

Wherever the template of an item names its identifier, the identifier of the call
is put, whatever is fixed for the paths of the service.  Two texts that are put in
for one name give the same path only if they are the same: when they differ in
length so do the paths, and otherwise the paths differ wherever the name stands.
-/

namespace MerchantApi

namespace Template

open Piece

variable {α β : Type} {f g : α → List β} {xs : List α}

/-! ## Texts put together piece by piece -/

private theorem length_flatMap_lt (hle : ∀ x ∈ xs, (f x).length ≤ (g x).length)
    (hlt : ∃ x ∈ xs, (f x).length < (g x).length) :
    (xs.flatMap f).length < (xs.flatMap g).length := by
  rw [List.length_flatMap, List.length_flatMap]
  exact List.sum_lt_sum _ _ hle hlt

private theorem eq_of_flatMap_eq (hlength : ∀ x ∈ xs, (f x).length = (g x).length)
    (h : xs.flatMap f = xs.flatMap g) : ∀ x ∈ xs, f x = g x := by
  induction xs with
  | nil => exact nofun
  | cons x xs ih =>
    obtain ⟨hx, hxs⟩ := List.forall_mem_cons.1 hlength
    rw [List.flatMap_cons, List.flatMap_cons] at h
    obtain ⟨hhead, htail⟩ := List.append_inj h hx
    exact List.forall_mem_cons.2 ⟨hhead, ih hxs htail⟩

/-! ## One parameter told apart -/

section OneParameter

variable {params others : String → Option String} {name value other path : String}

/-- Parameters that are the same but for one name fill the same text into every
piece but the placeholders of that name. -/
theorem fill_eq_or (hvalue : params name = some value) (hother : others name = some other)
    (hsame : ∀ n, n ≠ name → params n = others n) (p : Piece) :
    fill params p = fill others p ∨
      fill params p = value.toList ∧ fill others p = other.toList := by
  cases p with
  | char c => exact Or.inl rfl
  | hole n =>
    by_cases hn : String.ofList n = name
    · exact Or.inr (by simp only [fill, hn, hvalue, hother, Option.getD_some, and_self])
    · exact Or.inl (by simp only [fill, hsame _ hn])

private theorem fill_hole (hvalue : params name = some value) :
    fill params (.hole name.toList) = value.toList := by
  rw [fill, String.ofList_toList, hvalue, Option.getD_some]

/-- A shorter text for a placeholder would make a shorter path. -/
theorem length_le_of_fill_eq (hvalue : params name = some value)
    (hother : others name = some other) (hsame : ∀ n, n ≠ name → params n = others n)
    {pieces : List Piece} (hmem : .hole name.toList ∈ pieces)
    (h : pieces.flatMap (fill params) = pieces.flatMap (fill others)) :
    other.toList.length ≤ value.toList.length := by
  by_contra hlt
  have hshorter : (pieces.flatMap (fill params)).length <
      (pieces.flatMap (fill others)).length := by
    refine length_flatMap_lt (fun p _ => ?_) ⟨_, hmem, ?_⟩
    · rcases fill_eq_or hvalue hother hsame p with heq | ⟨hp, hp'⟩
      · rw [heq]
      · rw [hp, hp']
        exact (Nat.lt_of_not_le hlt).le
    · rw [fill_hole hvalue, fill_hole hother]
      exact Nat.lt_of_not_le hlt
  rw [h] at hshorter
  exact Nat.lt_irrefl _ hshorter

/-- Two texts for one placeholder lead to the same path only if they are the same. -/
theorem eq_of_resolve_eq {t : Template} (hname : name ∈ t.placeholders)
    (hvalue : params name = some value) (hother : others name = some other)
    (hsame : ∀ n, n ≠ name → params n = others n) (h : t.resolve params = .ok path)
    (h' : t.resolve others = .ok path) : value = other := by
  have hmem : .hole name.toList ∈ t.pieces := mem_namesOf.1 hname
  have hfill : t.pieces.flatMap (fill params) = t.pieces.flatMap (fill others) := by
    rw [← (replaced_iff.1 (resolve_eq_ok_iff.1 h)).2, ← (replaced_iff.1 (resolve_eq_ok_iff.1 h')).2]
  have hlength : value.toList.length = other.toList.length :=
    Nat.le_antisymm
      (length_le_of_fill_eq hother hvalue (fun n hn => (hsame n hn).symm) hmem hfill.symm)
      (length_le_of_fill_eq hvalue hother hsame hmem hfill)
  have hparts : fill params (.hole name.toList) = fill others (.hole name.toList) := by
    refine eq_of_flatMap_eq (fun p _ => ?_) hfill _ hmem
    rcases fill_eq_or hvalue hother hsame p with heq | ⟨hp, hp'⟩
    · rw [heq]
    · rw [hp, hp', hlength]
  rw [fill_hole hvalue, fill_hole hother] at hparts
  exact String.toList_injective hparts

end OneParameter

end Template

namespace Call

open Activity

def CanSend {α : Type} (x : Call α) (request : Request) : Prop :=
  ∃ (σ : Type) (transport : Transport σ) (counter : Counter) (state : σ),
    request ∈ requestsOf (run transport x.run counter state).log

end Call

namespace EntityService

open Activity Call

variable {E α : Type}

/-- The parameter of a name for the path of an item: its identifier under `id`, and
the fixed one under any other name. -/
def itemParam (id : UInt64) (fixed : Members String) (name : String) : Option String :=
  if name = "id" then some (toString id.toNat) else Members.get? fixed name

def reaching (s : EntityService E) (t : Template) (method : String)
    (read : Json → Except ApiError α) (id : UInt64) : Call α :=
  Call.guarded do
    let path ← Call.ofExcept (s.resolvePath t (idParams id))
    let reply ← Call.send (Request.plain method path)
    Call.ofExcept (read reply)

theorem get_eq (s : EntityService E) (id : UInt64) :
    s.get id = s.reaching s.endpoints.get "GET" s.model id := rfl

theorem delete_eq (s : EntityService E) (id : UInt64) :
    s.delete id = s.reaching s.endpoints.delete "DELETE" .ok id := by
  have hsend : ∀ path, (do
      let reply ← Call.send (Request.plain "DELETE" path)
      Call.ofExcept (.ok reply) : Call Json) = Call.send (Request.plain "DELETE" path) :=
    fun path => bind_pure _
  simp only [reaching, hsend]
  rfl

theorem resolvePath_idParams (s : EntityService E) (t : Template) (id : UInt64) :
    s.resolvePath t (idParams id) = t.resolve (itemParam id s.pathParams) := by
  rw [resolvePath]
  refine congrArg _ (funext fun name => ?_)
  rw [idParams, itemParam, Members.get?_cons]
  by_cases hname : "id" = name
  · rw [if_pos hname, if_pos hname.symm, Option.some_or]
  · rw [if_neg hname, if_neg (Ne.symm hname), Members.get?_nil, Option.none_or]

variable {s : EntityService E} {t : Template} {method : String} {read : Json → Except ApiError α}

theorem canSend_reaching_iff {id : UInt64} {request : Request} :
    (s.reaching t method read id).CanSend request ↔
      ∃ path, t.resolve (itemParam id s.pathParams) = .ok path ∧
        request = Request.plain method path := by
  have hrequests : ∀ (σ : Type) (transport : Transport σ) (counter : Counter) (state : σ),
      requestsOf (run transport (s.reaching t method read id).run counter state).log =
        match t.resolve (itemParam id s.pathParams) with
        | .ok path => [Request.plain method path]
        | .error _ => [] := by
    intro σ transport counter state
    rw [reaching, Call.run_guarded, resolvePath_idParams]
    cases t.resolve (itemParam id s.pathParams) with
    | ok path =>
      rw [run_ofExcept_ok_bind, run_send_bind_ofExcept]
      rfl
    | error cause => rfl
  constructor
  · rintro ⟨σ, transport, counter, state, hmem⟩
    rw [hrequests] at hmem
    cases hpath : t.resolve (itemParam id s.pathParams) with
    | ok path =>
      rw [hpath] at hmem
      exact ⟨path, rfl, List.mem_singleton.1 hmem⟩
    | error cause =>
      rw [hpath] at hmem
      cases hmem
  · rintro ⟨path, hpath, rfl⟩
    refine ⟨Unit, fun _ _ => (.ok .null, ()), .fresh, (), ?_⟩
    rw [hrequests, hpath]
    exact List.mem_singleton_self _

/-- Requests of one operation for two identifiers have different paths, if the
template names the identifier. -/
theorem eq_of_path_eq (hnamed : "\x7bid\x7d".toList <:+: t.source.toList) {a b : UInt64}
    {request other : Request} (ha : (s.reaching t method read a).CanSend request)
    (hb : (s.reaching t method read b).CanSend other) (hpath : request.path = other.path) :
    a = b := by
  obtain ⟨path, hresolved, rfl⟩ := canSend_reaching_iff.1 ha
  obtain ⟨path', hresolved', rfl⟩ := canSend_reaching_iff.1 hb
  obtain rfl : path = path' := hpath
  have hname : "id" ∈ t.placeholders :=
    Template.mem_placeholders_iff.2 ⟨EndpointSet.isName_id, hnamed⟩
  have hdecimal : toString a.toNat = toString b.toNat := by
    refine Template.eq_of_resolve_eq hname (if_pos rfl) (if_pos rfl) (fun n hn => ?_) hresolved
      hresolved'
    rw [itemParam, itemParam, if_neg hn, if_neg hn]
  rw [← UInt64.toNat_inj, ← ofDigitChars_toString a.toNat, hdecimal, ofDigitChars_toString]

theorem exists_replaced_of_canSend {id : UInt64} {request : Request}
    (h : (s.reaching t method read id).CanSend request) :
    ∃ pieces, Piece.Cuts t.source.toList pieces ∧
      Piece.Replaced (itemParam id s.pathParams) pieces request.path.toList := by
  obtain ⟨path, hresolved, rfl⟩ := canSend_reaching_iff.1 h
  exact Template.resolve_eq_ok_iff_replaced.1 hresolved

theorem itemParam_insert (id : UInt64) (value : String) (fixed : Members String) :
    itemParam id (Members.insert "id" value fixed) = itemParam id fixed := by
  funext name
  rw [itemParam, itemParam, Members.get?_insert]
  split
  · rfl
  · rename_i hname
    rw [if_neg (Ne.symm hname)]

theorem reaching_withPathParam (value : String) (id : UInt64) :
    (s.withPathParam "id" value).reaching t method read id = s.reaching t method read id := by
  rw [reaching, reaching, resolvePath_idParams, resolvePath_idParams]
  simp only [withPathParam, itemParam_insert]

/-- Two requests that fetch items, or two that delete them, have the same path only
if they are for the same item, wherever and however often the template names its
identifier.  The identifier of the call stands there, and a fixed parameter of that
name changes nothing. -/
theorem different_ids_never_share_path (s : EntityService E) :
    ("\x7bid\x7d".toList <:+: s.endpoints.get.source.toList →
      ∀ a b request other, (s.get a).CanSend request → (s.get b).CanSend other →
        request.path = other.path → a = b) ∧
    ("\x7bid\x7d".toList <:+: s.endpoints.delete.source.toList →
      ∀ a b request other, (s.delete a).CanSend request → (s.delete b).CanSend other →
        request.path = other.path → a = b) ∧
    ∀ id,
      (∀ request, (s.get id).CanSend request →
        ∃ pieces, Piece.Cuts s.endpoints.get.source.toList pieces ∧
          Piece.Replaced (itemParam id s.pathParams) pieces request.path.toList) ∧
      (∀ request, (s.delete id).CanSend request →
        ∃ pieces, Piece.Cuts s.endpoints.delete.source.toList pieces ∧
          Piece.Replaced (itemParam id s.pathParams) pieces request.path.toList) ∧
      ∀ value, (s.withPathParam "id" value).get id = s.get id ∧
        (s.withPathParam "id" value).delete id = s.delete id := by
  simp only [get_eq, delete_eq]
  refine ⟨fun hnamed a b _ _ => eq_of_path_eq hnamed, fun hnamed a b _ _ => eq_of_path_eq hnamed,
    fun id => ⟨fun _ => exists_replaced_of_canSend, fun _ => exists_replaced_of_canSend,
      fun value => ⟨reaching_withPathParam value id, reaching_withPathParam value id⟩⟩⟩

def twiceNamed : EntityService User :=
  ((ofEndpoints { EndpointSet.rest "/users" with
    get := ⟨"/teams/1\x7bid\x7d\x7bteam\x7d\x7bid\x7d"⟩ }).withPathParam "id" "9").withPathParam
      "team" "1"

theorem different_ids_never_share_path_twiceNamed :
    (twiceNamed.get 1).CanSend (.get "/teams/1111") ∧
    (twiceNamed.get 11).CanSend (.get "/teams/111111") ∧
    ∀ request, (twiceNamed.get 1).CanSend request → request.path ≠ "/teams/111111" := by
  have hsent : ∀ (id : UInt64) (path : String),
      (twiceNamed.endpoints.get.resolve (itemParam id twiceNamed.pathParams)).toOption =
        some path → (twiceNamed.get id).CanSend (.get path) := by
    intro id path hpath
    cases hresolved : twiceNamed.endpoints.get.resolve (itemParam id twiceNamed.pathParams) with
    | error cause =>
      rw [hresolved] at hpath
      cases hpath
    | ok found =>
      rw [hresolved] at hpath
      obtain rfl : found = path := Option.some.inj hpath
      rw [get_eq]
      exact canSend_reaching_iff.2 ⟨found, hresolved, rfl⟩
  have hone : (twiceNamed.get 1).CanSend (.get "/teams/1111") :=
    hsent 1 _ (by decide +kernel)
  have heleven : (twiceNamed.get 11).CanSend (.get "/teams/111111") :=
    hsent 11 _ (by decide +kernel)
  have hnamed : "\x7bid\x7d".toList <:+: twiceNamed.endpoints.get.source.toList :=
    ⟨"/teams/1".toList, "\x7bteam\x7d\x7bid\x7d".toList, rfl⟩
  obtain ⟨hget, -, -⟩ := different_ids_never_share_path twiceNamed
  refine ⟨hone, heleven, fun request hrequest hpath => ?_⟩
  exact absurd (hget hnamed 1 11 request _ hrequest heleven hpath) (by decide)

end EntityService

end MerchantApi
