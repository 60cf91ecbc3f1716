import MerchantApi.Proofs.Entity.Scalars
import MerchantApi.Proofs.EntityService.PageQuery
import MerchantApi.Proofs.Template.Resolve
/-!
# How the requests of a listing are put together

The filters of a list are the parameters of the call and, where these give
nothing, the set fields of the query.  A filter named like a placeholder of the
list goes into the path, before a fixed parameter of that name; every other one
goes into the query.  No filter goes into both, and none is lost.
-/

namespace MerchantApi

/-- The numbers of the pages that a listing asks for: the only one, or those from
the first on. -/
def Page.Asks : Page → List Nat → Prop
  | .single number, numbers => numbers = [number]
  | .all, numbers => ∃ count, 0 < count ∧ numbers = List.range' 1 count

namespace EntityService

open Activity

variable {E σ : Type} [Entity E]

/-- What a list is filtered by under a name: a parameter of the call, or else a
set field of the query. -/
def filterOf (query : E) (params : Members String) (name : String) : Option String :=
  (Members.get? params name).or (Members.get? (Entity.setFields query) name)

variable {s : EntityService E} {query : E} {params : Members String} {path : String}

/-! ## Filters by name -/

private theorem get?_filters (hparams : params.Sorted) (name : String) :
    Members.get? (filters query params) name = filterOf query params name :=
  hparams.get?_overlay (Entity.setFields query) name

theorem sorted_listFilters [Entity.Ordered E] (s : EntityService E) (query : E)
    (params : Members String) : (s.listFilters query params).Sorted :=
  ((Entity.sorted_setFields query).overlay params).filter _

theorem mem_listFilters_iff [Entity.Ordered E] (hparams : params.Sorted) {name value : String} :
    (name, value) ∈ s.listFilters query params ↔
      filterOf query params name = some value ∧ name ∉ s.endpoints.getAll.placeholders := by
  rw [← (sorted_listFilters s query params).get?_eq_some_iff, get?_listFilters, passedOn?,
    get?_filters hparams]
  split
  · rename_i hname
    exact iff_of_false (Option.some_ne_none value).symm fun h => h.2 hname
  · rename_i hname
    exact ⟨fun h => ⟨h, hname⟩, And.left⟩

theorem listPath_eq (hparams : params.Sorted) :
    s.listPath query params = s.endpoints.getAll.resolve fun name =>
      (filterOf query params name).or (Members.get? s.pathParams name) := by
  rw [listPath, resolvePath]
  exact congrArg _ (funext fun name => by rw [get?_filters hparams])

/-! ## The requests of a listing -/

private theorem requestsOf_fetchFrom_ne_nil (s : EntityService E) (transport : Transport σ)
    (path : String) (filters : Members String) (count number : Nat) (before : List E)
    (counter : Counter) (state : σ) :
    requestsOf (run transport (s.fetchFrom path filters (count + 1) number before).run counter
      state).log ≠ [] := by
  by_cases hends : s.Ends (run transport (s.fetchPage path filters number).run counter
    state).result
  · rw [run_fetchFrom_of_ends rfl hends, run_fetchPage]
    exact List.cons_ne_nil _ _
  · obtain ⟨batch, hbatch, hfull⟩ := exists_batch_of_not_ends hends
    rw [run_fetchFrom_of_full rfl hbatch hfull, run_fetchPage]
    exact List.cons_ne_nil _ _

theorem requestsOf_getAll (hpath : s.listPath query params = .ok path) (page : Page)
    (transport : Transport σ) (counter : Counter) (state : σ) :
    ∃ numbers, page.Asks numbers ∧
      requestsOf (run transport (s.getAll query params page).run counter state).log =
        numbers.map (s.pageRequest path (s.listFilters query params)) := by
  cases page with
  | single number =>
    have hrun := pageRun_of_ok transport number hpath counter state
    rw [pageRun] at hrun
    exact ⟨[number], rfl, by rw [hrun]; rfl⟩
  | all =>
    obtain ⟨count, hcount⟩ := requestsOf_fetchFrom s transport path (s.listFilters query params)
      Page.last 1 [] counter.acquire state
    have hsome := requestsOf_fetchFrom_ne_nil s transport path (s.listFilters query params)
      (Page.last - 1) 1 [] counter.acquire state
    rw [show Page.last - 1 + 1 = Page.last from rfl, hcount] at hsome
    have hpos : 0 < count := by
      rw [Nat.pos_iff_ne_zero]
      rintro rfl
      exact hsome rfl
    refine ⟨List.range' 1 count, ⟨count, hpos, rfl⟩, ?_⟩
    rw [run_getAll_all transport hpath]
    exact hcount

/-- Every request of a listing has the same path and the same filters, and they are
what the parameters of the call and the set fields of the query say.  When a
placeholder is supplied by neither these nor the fixed parameters, the first such
one is the error and nothing is sent. -/
theorem list_requests_composed (s : EntityService E) [Entity.Ordered E] (query : E)
    (params : Members String) (hparams : params.Sorted) (page : Page) (transport : Transport σ)
    (counter : Counter) (state : σ) :
    let given := filterOf query params
    let fixed := Members.get? s.pathParams
    let t := s.endpoints.getAll
    let r := run transport (s.getAll query params page).run counter state
    ((∀ name ∈ t.placeholders, given name ≠ none ∨ fixed name ≠ none) →
      ∃ path filters numbers,
        t.resolve (fun name => (given name).or (fixed name)) = .ok path ∧
        Members.Sorted filters ∧
        (∀ name value, (name, value) ∈ filters ↔
          given name = some value ∧ name ∉ t.placeholders) ∧
        page.Asks numbers ∧
        requestsOf r.log = numbers.map fun number =>
          ⟨"GET", path, filters ++ [("page", toString number), ("per_page", toString s.pageSize)],
            .empty⟩) ∧
    (¬ (∀ name ∈ t.placeholders, given name ≠ none ∨ fixed name ≠ none) →
      ∃ earlier name later, t.placeholders = earlier ++ name :: later ∧
        (∀ other ∈ earlier, given other ≠ none ∨ fixed other ≠ none) ∧
        (given name = none ∧ fixed name = none) ∧
        r.result = .error (.missingParameter name t.source) ∧
        requestsOf r.log = [] ∧ r.state = state) := by
  intro given fixed t r
  have hsupplied : ∀ name, (∃ value, (given name).or (fixed name) = some value) ↔
      given name ≠ none ∨ fixed name ≠ none := by
    intro name
    rw [← Option.ne_none_iff_exists', Ne, Option.or_eq_none_iff, not_and_or]
  have hlist : s.listPath query params = t.resolve fun name => (given name).or (fixed name) :=
    listPath_eq hparams
  simp only [← hsupplied, ← Template.exists_resolve_iff, ← hlist]
  constructor
  · rintro ⟨path, hpath⟩
    obtain ⟨numbers, hasks, hrequests⟩ := requestsOf_getAll hpath page transport counter state
    exact ⟨path, s.listFilters query params, numbers, hpath, sorted_listFilters s query params,
      fun _ _ => mem_listFilters_iff hparams, hasks, hrequests⟩
  · intro hnone
    cases hpath : s.listPath query params with
    | ok path => exact absurd ⟨path, hpath⟩ hnone
    | error cause =>
      have hrun := run_getAll_of_error transport page hpath counter state
      rw [hlist] at hpath
      obtain ⟨earlier, name, later, hnames, hearlier, hmissing, rfl⟩ :=
        Template.resolve_eq_error_iff.1 hpath
      refine ⟨earlier, name, later, hnames, hearlier, Option.or_eq_none_iff.1 hmissing, ?_⟩
      rw [show r = _ from hrun]
      exact ⟨rfl, rfl, rfl⟩

def teamUsers : EntityService User :=
  ((ofEndpoints { EndpointSet.rest "/users" with
    getAll := ⟨"/teams/\x7bteam\x7d/users"⟩ }).withPathParam "team" "4").withPageSize 2

def unteamedUsers : EntityService User := { teamUsers with pathParams := [] }

def kim : User := { User.blank with username := "kim", email := "kim@example.org" }

theorem list_requests_composed_teamUsers :
    (∃ filters : Members String, ("email", "a b") ∈ filters ∧ ("username", "kim") ∈ filters ∧
      (∀ value, ("team", value) ∉ filters) ∧
      requestsOf (run (Script.mk []).transport (teamUsers.getAll kim
          [("email", "a b"), ("team", "5")] (.single 3)).run .fresh 0).log =
        [⟨"GET", "/teams/5/users", filters ++ [("page", "3"), ("per_page", "2")], .empty⟩]) ∧
    (run (Script.mk []).transport (unteamedUsers.getAll kim [] .all).run .fresh 0).result =
      .error (.missingParameter "team" "/teams/\x7bteam\x7d/users") := by
  have hnames : teamUsers.endpoints.getAll.placeholders = ["team"] := by decide +kernel
  have hpath : (teamUsers.endpoints.getAll.resolve fun name =>
      (filterOf kim [("email", "a b"), ("team", "5")] name).or
        (Members.get? teamUsers.pathParams name)).toOption = some "/teams/5/users" := by
    decide +kernel
  have hsorted : Members.Sorted [("email", "a b"), ("team", "5")] := by
    unfold Members.Sorted
    decide
  obtain ⟨hsent, -⟩ := list_requests_composed teamUsers kim [("email", "a b"), ("team", "5")]
    hsorted (.single 3) (Script.mk []).transport .fresh 0
  obtain ⟨-, hunsent⟩ := list_requests_composed unteamedUsers kim [] List.Pairwise.nil .all
    (Script.mk []).transport .fresh 0
  constructor
  · obtain ⟨path, filters, numbers, hresolved, -, hfilters, hasks, hrequests⟩ :=
      hsent (by rw [hnames]; decide)
    rw [hresolved] at hpath
    obtain rfl : path = "/teams/5/users" := Option.some.inj hpath
    obtain rfl : numbers = [3] := hasks
    refine ⟨filters, (hfilters _ _).2 ?_, (hfilters _ _).2 ?_, fun value hvalue => ?_, hrequests⟩
    · rw [hnames]
      decide
    · rw [hnames]
      decide
    · exact ((hfilters _ _).1 hvalue).2 (by rw [hnames]; decide)
  · obtain ⟨earlier, name, later, hlist, -, -, hresult, -⟩ := hunsent (by
      rw [show unteamedUsers.endpoints.getAll.placeholders = ["team"] from hnames]
      decide)
    have hone : earlier ++ name :: later = ["team"] := hlist.symm.trans hnames
    obtain ⟨rfl, hcons⟩ | ⟨-, hnil⟩ := List.append_eq_singleton_iff.1 hone
    · obtain ⟨rfl, -⟩ := List.cons.inj hcons
      exact hresult
    · cases hnil

end EntityService

end MerchantApi
