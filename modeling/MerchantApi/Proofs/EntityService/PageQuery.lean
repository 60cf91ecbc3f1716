import MerchantApi.Proofs.Dispatch
import MerchantApi.Proofs.EntityService.PagedList
import MerchantApi.Proofs.Members
import MerchantApi.Services
/-!
# The page that a request asks for

The requests of a listing differ in the number of the page alone.  The number
stands in the query after the filters, so a request asks for its page exactly
when no filter is named like the number or the size of a page; a filter of such
a name is what the server reads in their place.
-/

namespace MerchantApi

def Request.occurrences (r : Request) (name : String) : Nat :=
  r.query.countP fun pair => pair.1 = name

/-- A request for a page of a size: number and size stand in its query once each,
and they are what is looked up there. -/
structure Request.AsksFor (r : Request) (number size : Nat) : Prop where
  page_once : r.occurrences "page" = 1
  page : r.queryParam "page" = some (toString number)
  size_once : r.occurrences "per_page" = 1
  size : r.queryParam "per_page" = some (toString size)

/-- The number of the page that a request fetches, the requests of a listing being
counted from zero. -/
def Page.numberOf : Page → Nat → Nat
  | .single number, _ => number
  | .all, sent => sent + 1

namespace EntityService

open Activity

variable {E σ : Type}

/-! ## The query of a page -/

section Queries

variable (s : EntityService E) (path : String) (filters : Members String) (number : Nat)

private theorem occurrences_pageRequest {name : String}
    (hname : name = "page" ∨ name = "per_page") :
    (s.pageRequest path filters number).occurrences name =
      (filters.countP fun entry => entry.1 = name) + 1 := by
  have hquery : (s.pageRequest path filters number).query =
      filters ++ [("page", toString number), ("per_page", toString s.pageSize)] := rfl
  rw [Request.occurrences, hquery, List.countP_append]
  rcases hname with rfl | rfl <;> rfl

private theorem occurrences_eq_one_iff {name : String} (hname : name = "page" ∨ name = "per_page") :
    (s.pageRequest path filters number).occurrences name = 1 ↔
      Members.get? filters name = none := by
  rw [occurrences_pageRequest s path filters number hname, Nat.add_eq_right,
    Members.countP_name_eq_zero_iff]

theorem asksFor_pageRequest_iff :
    (s.pageRequest path filters number).AsksFor number s.pageSize ↔
      Members.get? filters "page" = none ∧ Members.get? filters "per_page" = none := by
  have hpage := occurrences_eq_one_iff s path filters number (Or.inl rfl)
  have hsize := occurrences_eq_one_iff s path filters number (Or.inr rfl)
  constructor
  · exact fun h => ⟨hpage.1 h.page_once, hsize.1 h.size_once⟩
  · rintro ⟨hnoPage, hnoSize⟩
    refine ⟨hpage.2 hnoPage, ?_, hsize.2 hnoSize, ?_⟩
    · rw [queryParam_pageRequest, hnoPage]
      rfl
    · rw [queryParam_pageRequest, hnoSize]
      rfl

end Queries

variable [Entity E]

/-! ## The requests of a listing -/

theorem requestsOf_fetchFrom (s : EntityService E) (transport : Transport σ) (path : String)
    (filters : Members String) (count number : Nat) (before : List E) (counter : Counter)
    (state : σ) :
    ∃ pages, requestsOf (run transport (s.fetchFrom path filters count number before).run counter
      state).log = s.pageRequests path filters number pages := by
  induction count generalizing number before counter state with
  | zero => exact ⟨0, rfl⟩
  | succ count ih =>
    by_cases hends : s.Ends (run transport (s.fetchPage path filters number).run counter
      state).result
    · rw [run_fetchFrom_of_ends rfl hends, run_fetchPage]
      exact ⟨1, rfl⟩
    · obtain ⟨batch, hbatch, hfull⟩ := exists_batch_of_not_ends hends
      rw [run_fetchFrom_of_full rfl hbatch hfull]
      obtain ⟨pages, hpages⟩ := ih (number + 1) (before ++ batch)
        (run transport (s.fetchPage path filters number).run counter state).counter
        (run transport (s.fetchPage path filters number).run counter state).state
      refine ⟨pages + 1, ?_⟩
      rw [Run.after, requestsOf_append, hpages, run_fetchPage]
      simp only [pageRequests, List.range'_succ, List.map_cons, requestsOf_request,
        requestsOf_nil, List.singleton_append]

theorem exists_path_of_request {s : EntityService E} {query : E} {params : Members String}
    {page : Page} {transport : Transport σ} {counter : Counter} {state : σ} {sent : Nat}
    {request : Request}
    (h : (requestsOf (run transport (s.getAll query params page).run counter state).log)[sent]? =
      some request) :
    ∃ path, s.listPath query params = .ok path ∧
      request = s.pageRequest path (s.listFilters query params) (page.numberOf sent) := by
  cases hpath : s.listPath query params with
  | error cause =>
    rw [run_getAll_of_error transport page hpath] at h
    cases h
  | ok path =>
    refine ⟨path, rfl, ?_⟩
    cases page with
    | single number =>
      have hrun := pageRun_of_ok transport number hpath counter state
      rw [pageRun] at hrun
      rw [hrun] at h
      exact (List.mem_singleton.1 (List.mem_of_getElem? h))
    | all =>
      rw [run_getAll_all transport hpath] at h
      obtain ⟨pages, hpages⟩ := requestsOf_fetchFrom s transport path (s.listFilters query params)
        Page.last 1 [] counter.acquire state
      simp only [hpages, pageRequests, List.getElem?_map, Option.map_eq_some_iff] at h
      obtain ⟨number, hnumber, rfl⟩ := h
      obtain ⟨hsent, rfl⟩ := List.getElem?_eq_some_iff.1 hnumber
      rw [List.getElem_range', Nat.one_mul, Nat.add_comm]
      rfl

/-! ## Filters that are passed on -/

/-- The filter of a name that the query of a list passes on to the server, unless
the path of the list uses it up. -/
def passedOn? (s : EntityService E) (query : E) (params : Members String) (name : String) :
    Option String :=
  if name ∈ s.endpoints.getAll.placeholders then none
  else Members.get? (filters query params) name

theorem get?_listFilters (s : EntityService E) (query : E) (params : Members String)
    (name : String) :
    Members.get? (s.listFilters query params) name = s.passedOn? query params name := by
  have hfilter := Members.get?_filter_name
    (fun name => decide (name ∉ s.endpoints.getAll.placeholders)) (filters query params) name
  rw [listFilters, queryFilters, passedOn?]
  refine hfilter.trans ?_
  by_cases hname : name ∈ s.endpoints.getAll.placeholders <;> simp [hname]

/-- A request of a listing asks for its page exactly when no filter that is passed
on is named like the number or the size of a page.  Such a filter is what is
looked up instead, and the name stands in the query more than once. -/
theorem asksFor_iff_none_passedOn {σ : Type} (s : EntityService E) (query : E)
    (params : Members String) (page : Page) (transport : Transport σ) (counter : Counter)
    (state : σ) (sent : Nat) (request : Request)
    (h : (requestsOf (run transport (s.getAll query params page).run counter state).log)[sent]? =
      some request) :
    (request.AsksFor (page.numberOf sent) s.pageSize ↔
      s.passedOn? query params "page" = none ∧ s.passedOn? query params "per_page" = none) ∧
    ∀ name, name = "page" ∨ name = "per_page" → ∀ value,
      s.passedOn? query params name = some value →
        request.queryParam name = some value ∧ request.occurrences name ≠ 1 := by
  obtain ⟨path, -, rfl⟩ := exists_path_of_request h
  simp only [← get?_listFilters]
  refine ⟨asksFor_pageRequest_iff _ _ _ _, fun name hname value hvalue => ⟨?_, ?_⟩⟩
  · rw [queryParam_pageRequest, hvalue]
    rfl
  · rw [Ne, occurrences_eq_one_iff _ _ _ _ hname, hvalue]
    exact Option.some_ne_none value

theorem asksFor_twoPages :
    ∃ request,
      (requestsOf (run twoPages.transport (userPages.getAll User.blank [("role", "admin")]
        .all).run .fresh 0).log)[1]? = some request ∧
      request.AsksFor 2 2 := by
  have hpath : userPages.listPath User.blank [("role", "admin")] = .ok "/users" :=
    Template.resolve_of_not_mem (by decide) _
  have hnone : userPages.endpoints.getAll.placeholders = [] :=
    Template.placeholders_of_not_mem (by decide)
  have hsecond : (requestsOf (run twoPages.transport (userPages.getAll User.blank
      [("role", "admin")] .all).run .fresh 0).log)[1]? =
        some ⟨"GET", "/users", [("role", "admin"), ("page", "2"), ("per_page", "2")], .empty⟩ := by
    rw [run_getAll_all _ hpath, listFilters, queryFilters, hnone]
    rfl
  have hasks := asksFor_iff_none_passedOn userPages User.blank [("role", "admin")] .all
    twoPages.transport .fresh 0 1 _ hsecond
  refine ⟨_, hsecond, hasks.1.2 ⟨?_, ?_⟩⟩
  · rw [passedOn?, hnone]
    rfl
  · rw [passedOn?, hnone]
    rfl

/-- A list that is asked for with a page among its filters: the server reads that
page, whichever is meant to be fetched. -/
theorem not_asksFor_ownPage :
    ∃ request,
      requestsOf (run (Script.mk [.ok (.array [])]).transport
        (Merchant.service.getAll Merchant.blank [("page", "7")] .all).run .fresh 0).log =
          [request] ∧
      request.query = [("page", "7"), ("page", "1"), ("per_page", "50")] ∧
      request.queryParam "page" = some "7" ∧
      ¬ request.AsksFor 1 50 := by
  have hpath : Merchant.service.listPath Merchant.blank [("page", "7")] = .ok "/merchants" :=
    Template.resolve_of_not_mem (by decide) _
  have hnone : Merchant.service.endpoints.getAll.placeholders = [] :=
    Template.placeholders_of_not_mem (by decide)
  refine ⟨⟨"GET", "/merchants", [("page", "7"), ("page", "1"), ("per_page", "50")], .empty⟩, ?_,
    rfl, rfl, fun h => ?_⟩
  · rw [run_getAll_all _ hpath, listFilters, queryFilters, hnone]
    rfl
  · have honce := h.page_once
    revert honce
    decide

end EntityService

end MerchantApi
