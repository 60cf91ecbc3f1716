import MerchantApi.MappingService
import MerchantApi.Proofs.EntityService.Pages
import MerchantApi.Proofs.Members
import MerchantApi.Proofs.Outcome
/-!
# Lists that are served in pages

A backend cuts a list of records into pages of the size it is asked for.  The
pages that are fetched before page `n + 1` hold the first `n * size` records,
so at the first page that is not full the whole list was seen, each record
once and in its place, whatever the size of the pages.
-/

namespace MerchantApi

/-- The page of a number, counted from one, when so many items go to a page. -/
def pageOf {α : Type} (items : List α) (size number : Nat) : List α :=
  (items.drop ((number - 1) * size)).take size

section Pages

variable {α : Type} {items : List α} {size pages : Nat}

/-- As long as a page more fits in the list, the next page is full. -/
theorem length_pageOf_of_lt (h : pages < items.length / size) :
    (pageOf items size (pages + 1)).length = size := by
  have hfits : (pages + 1) * size ≤ items.length := Nat.mul_le_of_le_div size _ _ h
  rw [pageOf, List.length_take, List.length_drop, Nat.add_sub_cancel]
  rw [Nat.add_mul, Nat.one_mul] at hfits
  omega

private theorem length_pageOf_lt (hsize : 0 < size) :
    (pageOf items size (items.length / size + 1)).length < size := by
  have hmod := Nat.mod_lt items.length hsize
  have hdiv := Nat.div_add_mod' items.length size
  rw [pageOf, List.length_take, List.length_drop, Nat.add_sub_cancel]
  omega

private theorem take_append_pageOf :
    items.take (pages * size) ++ pageOf items size (pages + 1) =
      items.take ((pages + 1) * size) := by
  rw [pageOf, Nat.add_sub_cancel, ← List.take_add, Nat.add_mul, Nat.one_mul]

end Pages

namespace EntityService

open Activity

variable {E σ : Type}

def Lists (s : EntityService E) (items : List Json) (reply : Json) : Prop :=
  reply = .array items ∨
    ∃ members field, reply = .object members ∧ s.listField = some field ∧
      Members.get? members field = some (.array items)

def Serves (s : EntityService E) (transport : Transport σ) (path : String)
    (filters : Members String) (records : List Json) : Prop :=
  ∀ state number, 0 < number → number ≤ Page.last →
    ∃ reply, (transport state (s.pageRequest path filters number)).1 = .ok reply ∧
      s.Lists (pageOf records s.pageSize number) reply

variable {s : EntityService E} {path : String} {filters : Members String}

/-! ### A backend that serves lists -/

def queryNumber (request : Request) (name : String) : Nat :=
  Nat.ofDigitChars 10 ((request.queryParam name).getD "").toList 0

/-- A backend that keeps records and answers with the page of them that a request
asks for, bare or under a name. -/
def pagingBackend (field : Option String) (records : List Json) : Transport Unit :=
  fun _ request =>
    let page := Json.array
      (pageOf records (queryNumber request "per_page") (queryNumber request "page"))
    (.ok (field.elim page fun name => .object [(name, page)]), ())

theorem ofDigitChars_toString (n : Nat) : Nat.ofDigitChars 10 (toString n).toList 0 = n := by
  rw [Nat.toString_eq_ofList_toDigits, String.toList_ofList, Nat.ofDigitChars_ten_toDigits]

/-- A filter comes before the number and the size of the page. -/
theorem queryParam_pageRequest (number : Nat) (name : String) :
    (s.pageRequest path filters number).queryParam name =
      (Members.get? filters name).or
        (Members.get? [("page", toString number), ("per_page", toString s.pageSize)] name) := by
  rw [← Members.find?_name, ← Members.find?_name, ← Option.map_or, ← List.find?_append]
  rfl

theorem serves_pagingBackend (records : List Json)
    (hfilters : ∀ entry ∈ filters, entry.1 ≠ "page" ∧ entry.1 ≠ "per_page") :
    s.Serves (pagingBackend s.listField records) path filters records := by
  intro state number _ _
  have hnoPage : Members.get? filters "page" = none :=
    Members.get?_eq_none_iff.2 fun _ hentry => (hfilters _ hentry).1 rfl
  have hnoSize : Members.get? filters "per_page" = none :=
    Members.get?_eq_none_iff.2 fun _ hentry => (hfilters _ hentry).2 rfl
  have hpage : queryNumber (s.pageRequest path filters number) "page" = number := by
    rw [queryNumber, queryParam_pageRequest, hnoPage]
    exact ofDigitChars_toString number
  have hsize : queryNumber (s.pageRequest path filters number) "per_page" = s.pageSize := by
    rw [queryNumber, queryParam_pageRequest, hnoSize]
    exact ofDigitChars_toString s.pageSize
  refine ⟨_, rfl, ?_⟩
  rw [hpage, hsize]
  cases hfield : s.listField with
  | none => exact Or.inl rfl
  | some field =>
    refine Or.inr ⟨_, field, rfl, hfield, ?_⟩
    rw [Members.get?_cons, if_pos rfl]

/-! ### Listings -/

variable [Entity E] {records : List Json} {entities : List E}

def pageRequests (s : EntityService E) (path : String) (filters : Members String)
    (number count : Nat) : List Request :=
  (List.range' number count).map (s.pageRequest path filters)

theorem unwrapList_of_lists {items : List Json} {reply : Json} (h : s.Lists items reply) :
    s.unwrapList reply = .ok items := by
  rcases h with rfl | ⟨members, field, rfl, hfield, hitems⟩
  · rfl
  · simp only [unwrapList, hfield, hitems, Option.getD_some]

theorem readList_of_lists (hmodel : records.mapM s.model = .ok entities) {number : Nat}
    {reply : Json} (h : s.Lists (pageOf records s.pageSize number) reply) :
    s.readList reply = .ok (pageOf entities s.pageSize number) := by
  have hrecords := Outcome.mapM_eq_ok_iff.1 hmodel
  rw [readList, unwrapList_of_lists h]
  exact Outcome.mapM_eq_ok_iff.2 (List.forall₂_take _ (List.forall₂_drop _ hrecords))

theorem run_fetchPage_of_serves {transport : Transport σ}
    (hmodel : records.mapM s.model = .ok entities)
    (hserves : s.Serves transport path filters records) {number : Nat} (hnumber : 0 < number)
    (hlast : number ≤ Page.last) (counter : Counter) (state : σ) :
    (run transport (s.fetchPage path filters number).run counter state).result =
      .ok (pageOf entities s.pageSize number) := by
  obtain ⟨reply, hreply, hlists⟩ := hserves state number hnumber hlast
  rw [run_fetchPage]
  simp only
  rw [hreply]
  exact readList_of_lists hmodel hlists

/-- Fetching goes on from the full pages seen so far to the end of the list. -/
theorem run_fetchFrom_of_serves {transport : Transport σ}
    (hmodel : records.mapM s.model = .ok entities)
    (hserves : s.Serves transport path filters records)
    (hlast : entities.length / s.pageSize < Page.last) (left seen count : Nat)
    (hpages : entities.length / s.pageSize = seen + left) (hcount : left < count)
    (counter : Counter) (state : σ) :
    ∃ next,
      run transport (s.fetchFrom path filters count (seen + 1)
          (entities.take (seen * s.pageSize))).run counter state =
        ⟨.ok entities, (s.pageRequests path filters (seen + 1) (left + 1)).map
          fun request => (.request request, counter.count), counter, next⟩ := by
  induction left generalizing seen count state with
  | zero =>
    obtain _ | count := count
    · omega
    have hbatch := run_fetchPage_of_serves hmodel hserves (Nat.succ_pos seen) (by omega)
      counter state
    have hends : (pageOf entities s.pageSize (seen + 1)).length < s.pageSize :=
      Nat.add_zero seen ▸ hpages ▸ length_pageOf_lt s.pageSize_pos
    have hall : entities.length ≤ (seen + 1) * s.pageSize :=
      Nat.le_of_lt (Nat.lt_mul_of_div_lt (by omega) s.pageSize_pos)
    have hresult : entities.take (seen * s.pageSize) ++ pageOf entities s.pageSize (seen + 1) =
        entities := by
      rw [take_append_pageOf, List.take_of_length_le hall]
    rw [run_fetchFrom_of_ends rfl (by rw [hbatch]; exact hends) count, hbatch, run_fetchPage]
    exact ⟨_, congrArg (Run.mk · _ _ _) (congrArg Except.ok hresult)⟩
  | succ left ih =>
    obtain _ | count := count
    · omega
    have hbatch := run_fetchPage_of_serves hmodel hserves (Nat.succ_pos seen) (by omega)
      counter state
    have hfull : (pageOf entities s.pageSize (seen + 1)).length = s.pageSize :=
      length_pageOf_of_lt (by omega)
    rw [run_fetchFrom_of_full rfl hbatch (Nat.not_lt.2 (Nat.le_of_eq hfull.symm)) count,
      take_append_pageOf, run_fetchPage]
    obtain ⟨next, hrest⟩ := ih (seen + 1) count (by omega) (by omega)
      (transport state (s.pageRequest path filters (seen + 1))).2
    exact ⟨next, by rw [hrest]; rfl⟩

/-- What a complete listing rests on: a path, records that become entities, no
more pages than there are numbers for them, and a transport that serves them. -/
structure Listing (s : EntityService E) (transport : Transport σ) (query : E)
    (params : Members String) (path : String) (records : List Json) (entities : List E) :
    Prop where
  resolves : s.listPath query params = .ok path
  reads : records.mapM s.model = .ok entities
  pages : records.length / s.pageSize < Page.last
  serves : s.Serves transport path (s.listFilters query params) records

def listRequests (s : EntityService E) (query : E) (params : Members String) (path : String)
    (length : Nat) : List Request :=
  s.pageRequests path (s.listFilters query params) 1 (length / s.pageSize + 1)

theorem run_getAll_of_listing {transport : Transport σ} {query : E} {params : Members String}
    (h : s.Listing transport query params path records entities) (counter : Counter) (state : σ) :
    ∃ next,
      run transport (s.getAll query params .all).run counter state =
        ⟨.ok entities, (s.listRequests query params path records.length).map
          fun request => (.request request, counter.count + 1), counter.acquire.release, next⟩ := by
  have hlength : records.length = entities.length :=
    (Outcome.mapM_eq_ok_iff.1 h.reads).length_eq
  have hpages := h.pages
  rw [hlength] at hpages
  obtain ⟨next, hfetch⟩ := run_fetchFrom_of_serves h.reads h.serves hpages
    (entities.length / s.pageSize) 0 Page.last (Nat.zero_add _).symm hpages counter.acquire state
  rw [Nat.zero_mul, List.take_zero] at hfetch
  rw [run_getAll_all transport h.resolves, hfetch, listRequests, hlength]
  exact ⟨next, rfl⟩

theorem run_loadAll_of_listing {service : MappingService} {transport : Transport σ}
    {mappings : List Mapping}
    (h : service.entities.Listing transport Mapping.blank [] path records mappings)
    (counter : Counter) (state : σ) :
    ∃ next,
      run transport service.loadAll.run counter state =
        ⟨.ok (Group.ofMappings mappings),
          (service.entities.listRequests Mapping.blank [] path records.length).map
            fun request => (.request request, counter.count + 2),
          counter.acquire.acquire.release.release, next⟩ := by
  obtain ⟨next, hlist⟩ := run_getAll_of_listing h counter.acquire state
  rw [MappingService.loadAll, Call.run_guarded,
    Call.run_bind_of_ok transport (congrArg Run.result hlist), hlist]
  refine ⟨next, ?_⟩
  simp only [Call.run_pure, Run.after, List.append_nil]
  rfl

theorem listing_standard {describe : List Mapping.Violation → String} {size : Nat}
    {transport : Transport σ} {mappings : List Mapping}
    (hreads : records.mapM Entity.hydrate = .ok mappings)
    (hpages : records.length / max size 1 < Page.last)
    (hserves : ((MappingService.standard describe).withPageSize size).entities.Serves transport
      "/merchant-mappings" [] records) :
    ((MappingService.standard describe).withPageSize size).entities.Listing transport
      Mapping.blank [] "/merchant-mappings" records mappings where
  resolves := by
    have hplain : '{' ∉ (EndpointSet.rest MappingService.base).getAll.source.toList := by decide
    exact Template.resolve_of_not_mem hplain _
  reads := hreads
  pages := hpages
  serves := by
    have hfilters : ((MappingService.standard describe).withPageSize size).entities.listFilters
        Mapping.blank [] = [] := by rfl
    rw [hfilters]
    exact hserves

/-- Over a transport that serves a list in pages, the entities of the whole list
come back in their order, or their groups, whatever the size of a page. -/
theorem listing_complete (σ : Type) (transport : Transport σ) (records : List Json)
    (path : String) :
    (∀ (E : Type) [Entity E] (s : EntityService E) (query : E) (params : Members String)
        (entities : List E) (size : Nat) (counter : Counter) (state : σ),
      (s.withPageSize size).Listing transport query params path records entities →
        let listed := run transport ((s.withPageSize size).getAll query params .all).run
          counter state
        listed.result = .ok entities ∧
        listed.log = ((List.range' 1 (records.length / max size 1 + 1)).map fun number =>
          (.request ((s.withPageSize size).pageRequest path (s.listFilters query params) number),
            counter.count + 1)) ∧
        ∀ other next after,
          (s.withPageSize other).Listing transport query params path records entities →
            (run transport ((s.withPageSize other).getAll query params .all).run next
              after).result = listed.result) ∧
    ∀ (service : MappingService) (mappings : List Mapping) (size : Nat) (counter : Counter)
        (state : σ),
      (service.withPageSize size).entities.Listing transport Mapping.blank [] path records
          mappings →
        let loaded := run transport (service.withPageSize size).loadAll.run counter state
        loaded.result = .ok (Group.ofMappings mappings) ∧
        loaded.log = ((List.range' 1 (records.length / max size 1 + 1)).map fun number =>
          (.request ((service.withPageSize size).entities.pageRequest path
            (service.entities.listFilters Mapping.blank []) number), counter.count + 2)) ∧
        ∀ other next after,
          (service.withPageSize other).entities.Listing transport Mapping.blank [] path records
              mappings →
            (run transport (service.withPageSize other).loadAll.run next after).result =
              loaded.result := by
  refine ⟨?_, ?_⟩
  · intro E _ s query params entities size counter state h
    obtain ⟨final, hrun⟩ := run_getAll_of_listing h counter state
    refine ⟨congrArg Run.result hrun, (congrArg Run.log hrun).trans (List.map_map ..), ?_⟩
    intro other next after hother
    obtain ⟨_, hrerun⟩ := run_getAll_of_listing hother next after
    rw [hrun, hrerun]
  · intro service mappings size counter state h
    obtain ⟨final, hrun⟩ := run_loadAll_of_listing h counter state
    refine ⟨congrArg Run.result hrun, (congrArg Run.log hrun).trans (List.map_map ..), ?_⟩
    intro other next after hother
    obtain ⟨_, hrerun⟩ := run_loadAll_of_listing hother next after
    rw [hrun, hrerun]

def threeRecords : List Json :=
  [.object [("field_name", .string "b"), ("id", .ofUInt64 1)],
    .object [("field_name", .string "a"), ("id", .ofUInt64 2)],
    .object [("field_name", .string "b"), ("id", .ofUInt64 3)]]

def threeMappings : List Mapping :=
  [{ Mapping.blank with id := 1, fieldName := "b" },
    { Mapping.blank with id := 2, fieldName := "a" },
    { Mapping.blank with id := 3, fieldName := "b" }]

theorem listing_threeRecords (describe : List Mapping.Violation → String) (size : Nat) :
    ((MappingService.standard describe).withPageSize size).entities.Listing
      (pagingBackend none threeRecords) Mapping.blank [] "/merchant-mappings" threeRecords
      threeMappings :=
  listing_standard (by rfl) (Nat.lt_of_le_of_lt (Nat.div_le_self 3 _) (by decide))
    (serves_pagingBackend threeRecords nofun)

theorem listing_complete_threeRecords :
    let service := MappingService.standard fun _ => "out of bounds"
    let listing (size : Nat) :=
      (service.withPageSize size).entities.Listing (pagingBackend none threeRecords)
        Mapping.blank [] "/merchant-mappings" threeRecords threeMappings
    let listed (size : Nat) :=
      run (pagingBackend none threeRecords)
        ((service.entities.withPageSize size).getAll Mapping.blank [] .all).run .fresh ()
    let loaded (size : Nat) :=
      run (pagingBackend none threeRecords) (service.withPageSize size).loadAll.run .fresh ()
    listing 2 ∧ listing 0 ∧
      (listed 2).result = .ok threeMappings ∧ (listed 0).result = (listed 2).result ∧
      (loaded 2).result = .ok (Group.ofMappings threeMappings) ∧
      (loaded 0).result = (loaded 2).result := by
  intro service listing listed loaded
  have hlistings : ∀ size, listing size := listing_threeRecords _
  obtain ⟨hlist, hload⟩ :=
    listing_complete Unit (pagingBackend none threeRecords) threeRecords "/merchant-mappings"
  have hlisted := hlist Mapping service.entities Mapping.blank [] threeMappings 2 .fresh ()
    (hlistings 2)
  have hloaded := hload service threeMappings 2 .fresh () (hlistings 2)
  exact ⟨hlistings 2, hlistings 0, hlisted.1, hlisted.2.2 0 .fresh () (hlistings 0), hloaded.1,
    hloaded.2.2 0 .fresh () (hlistings 0)⟩

end EntityService

end MerchantApi
