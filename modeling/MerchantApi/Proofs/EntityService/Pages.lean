import MerchantApi.EntityService
import MerchantApi.InFlight
import MerchantApi.Proofs.Activity
import MerchantApi.Proofs.Template
import MerchantApi.User
/-!
# Listing page by page

The operation that lists all pages does what the operations that list one page
do when they run one after the other.  The row of single pages goes on up to
the first one that fails or is not full, and what is seen of the two, what they
return and where they leave the transport is the same.
-/

namespace MerchantApi

namespace EntityService

open Activity

variable {E σ : Type}

abbrev ListRun (E σ : Type) := Run (Except ApiError (List E)) σ

/-- A page is the last one when it fails or is not full. -/
def Ends (s : EntityService E) : Except ApiError (List E) → Prop
  | .error _ => True
  | .ok batch => batch.length < s.pageSize

instance (s : EntityService E) : DecidablePred s.Ends
  | .error _ => inferInstanceAs (Decidable True)
  | .ok batch => inferInstanceAs (Decidable (batch.length < s.pageSize))

theorem ends_nil (s : EntityService E) : s.Ends (.ok []) := s.pageSize_pos

theorem exists_batch_of_not_ends {s : EntityService E} {result : Except ApiError (List E)}
    (h : ¬ s.Ends result) : ∃ batch, result = .ok batch ∧ ¬ batch.length < s.pageSize := by
  cases result with
  | error cause => exact absurd trivial h
  | ok batch => exact ⟨batch, rfl, h⟩

/-- A row of pages that goes on for as long as pages are full. -/
structure Stops (s : EntityService E) (earlier : List (ListRun E σ)) (last : ListRun E σ) :
    Prop where
  full : ∀ page ∈ earlier, ¬ s.Ends page.result
  ends : s.Ends last.result

/-- What a row of pages returns as a whole: its first error, or else the entities
of all pages in their order. -/
def gather (pages : List (ListRun E σ)) : Except ApiError (List E) :=
  List.flatten <$> pages.mapM Run.result

private theorem gather_singleton (page : ListRun E σ) : gather [page] = page.result := by
  rw [gather, List.mapM_cons, List.mapM_nil]
  cases page.result with
  | error cause => rfl
  | ok batch => exact congrArg Except.ok (List.append_nil batch)

theorem gather_cons_of_ok {page : ListRun E σ} {batch : List E}
    (h : page.result = .ok batch) (rest : List (ListRun E σ)) :
    gather (page :: rest) = (batch ++ ·) <$> gather rest := by
  rw [gather, gather, List.mapM_cons, h]
  cases rest.mapM Run.result with
  | error cause => rfl
  | ok batches => rfl

private theorem gather_of_error {s : EntityService E} {earlier : List (ListRun E σ)}
    {last : ListRun E σ} (hstops : s.Stops earlier last) {cause : ApiError}
    (hcause : last.result = .error cause) :
    gather (earlier ++ [last]) = .error cause := by
  have hfull := hstops.full
  clear hstops
  induction earlier with
  | nil => exact (gather_singleton last).trans hcause
  | cons page earlier ih =>
    obtain ⟨batch, hbatch, -⟩ := exists_batch_of_not_ends (hfull page List.mem_cons_self)
    rw [List.cons_append, gather_cons_of_ok hbatch,
      ih fun other hother => hfull other (List.mem_cons_of_mem _ hother)]
    rfl

variable [Entity E]

def listPath (s : EntityService E) (query : E) (params : Members String) :
    Except ApiError String :=
  s.resolvePath s.endpoints.getAll (filters query params)

def listFilters (s : EntityService E) (query : E) (params : Members String) : Members String :=
  s.queryFilters (filters query params)

def pageRun (s : EntityService E) (transport : Transport σ) (query : E) (params : Members String)
    (number : Nat) (counter : Counter) (state : σ) : ListRun E σ :=
  run transport (s.getAll query params (.single number)).run counter state

/-- The runs of the operations that list the pages `number`, `number + 1`, … one
after the other, `count` of them. -/
def pageRuns (s : EntityService E) (transport : Transport σ) (query : E)
    (params : Members String) (number count : Nat) (counter : Counter) (state : σ) :
    List (ListRun E σ) :=
  runRow transport
    ((List.range' number count).map fun page => (s.getAll query params (.single page)).run)
    counter state

variable {s : EntityService E} {query : E} {params : Members String} {path : String}

theorem getAll_eq (page : Page) :
    s.getAll query params page = Call.guarded (do
      let path ← Call.ofExcept (s.listPath query params)
      match page with
      | .single number => s.fetchPage path (s.listFilters query params) number
      | .all => s.fetchFrom path (s.listFilters query params) Page.last 1 []) := rfl

theorem run_fetchPage (transport : Transport σ) (filters : Members String) (number : Nat)
    (counter : Counter) (state : σ) :
    run transport (s.fetchPage path filters number).run counter state =
      let request := s.pageRequest path filters number
      ⟨(transport state request).1 >>= s.readList, [(.request request, counter.count)], counter,
        (transport state request).2⟩ :=
  Call.run_send_bind_ofExcept transport _ s.readList counter state

theorem run_getAll_of_error (transport : Transport σ) (page : Page) {cause : ApiError}
    (hpath : s.listPath query params = .error cause) (counter : Counter) (state : σ) :
    run transport (s.getAll query params page).run counter state =
      ⟨.error cause, [], counter.acquire.release, state⟩ := by
  rw [getAll_eq, hpath, Call.run_guarded, Call.run_ofExcept_error_bind]

theorem pageRun_of_error (transport : Transport σ) (number : Nat) {cause : ApiError}
    (hpath : s.listPath query params = .error cause) (counter : Counter) (state : σ) :
    s.pageRun transport query params number counter state =
      ⟨.error cause, [], counter.acquire.release, state⟩ :=
  run_getAll_of_error transport (.single number) hpath counter state

theorem pageRun_of_ok (transport : Transport σ) (number : Nat)
    (hpath : s.listPath query params = .ok path) (counter : Counter) (state : σ) :
    s.pageRun transport query params number counter state =
      let request := s.pageRequest path (s.listFilters query params) number
      ⟨(transport state request).1 >>= s.readList, [(.request request, counter.count + 1)],
        counter.acquire.release, (transport state request).2⟩ := by
  rw [pageRun, getAll_eq, hpath, Call.run_guarded, Call.run_ofExcept_ok_bind, run_fetchPage]
  rfl

theorem run_getAll_all (transport : Transport σ)
    (hpath : s.listPath query params = .ok path) (counter : Counter) (state : σ) :
    run transport (s.getAll query params .all).run counter state =
      let fetched := run transport
        (s.fetchFrom path (s.listFilters query params) Page.last 1 []).run counter.acquire state
      { fetched with counter := fetched.counter.release } := by
  rw [getAll_eq, hpath, Call.run_guarded, Call.run_ofExcept_ok_bind]

theorem run_fetchPage_of_listPath (transport : Transport σ) (number : Nat)
    (hpath : s.listPath query params = .ok path) {counter inner : Counter}
    (hinner : inner.count = counter.count + 1) (state : σ) :
    run transport (s.fetchPage path (s.listFilters query params) number).run inner state =
      { s.pageRun transport query params number counter state with counter := inner } := by
  rw [run_fetchPage, pageRun_of_ok transport number hpath, hinner]

theorem run_fetchFrom_of_ends {transport : Transport σ} {filters : Members String} {number : Nat}
    {counter : Counter} {state : σ} {page : ListRun E σ}
    (hpage : run transport (s.fetchPage path filters number).run counter state = page)
    (hends : s.Ends page.result) (count : Nat) (before : List E) :
    run transport (s.fetchFrom path filters (count + 1) number before).run counter state =
      { page with result := (before ++ ·) <$> page.result } := by
  subst hpage
  rw [fetchFrom]
  cases hresult : (run transport (s.fetchPage path filters number).run counter state).result with
  | error cause =>
    rw [Call.run_bind_of_error transport hresult]
    rfl
  | ok batch =>
    rw [hresult] at hends
    rw [Call.run_bind_of_ok transport hresult, if_pos (show batch.length < s.pageSize from hends)]
    simp only [Call.run_pure, Run.after, List.append_nil]
    rfl

theorem run_fetchFrom_of_full {transport : Transport σ} {filters : Members String} {number : Nat}
    {counter : Counter} {state : σ} {page : ListRun E σ} {batch : List E}
    (hpage : run transport (s.fetchPage path filters number).run counter state = page)
    (hbatch : page.result = .ok batch) (hfull : ¬ batch.length < s.pageSize) (count : Nat)
    (before : List E) :
    run transport (s.fetchFrom path filters (count + 1) number before).run counter state =
      (run transport (s.fetchFrom path filters count (number + 1) (before ++ batch)).run
        page.counter page.state).after page.log := by
  subst hpage
  rw [fetchFrom, Call.run_bind_of_ok transport hbatch, if_neg hfull]

theorem pageRuns_succ (transport : Transport σ) (number pages : Nat) (counter : Counter)
    (state : σ) :
    s.pageRuns transport query params number (pages + 1) counter state =
      let page := s.pageRun transport query params number counter state
      page :: s.pageRuns transport query params (number + 1) pages page.counter page.state := by
  rw [pageRuns, List.range'_succ]
  rfl

/-- Fetching pages under one guard does what single pages do in a row. -/
theorem run_fetchFrom_of_pageRuns {transport : Transport σ}
    (hpath : s.listPath query params = .ok path)
    {earlier : List (ListRun E σ)} {last : ListRun E σ}
    {number count pages : Nat} (before : List E) {counter inner : Counter} {state : σ}
    (hinner : inner.count = counter.count + 1) (hpages : pages ≤ count)
    (hrow : s.pageRuns transport query params number pages counter state = earlier ++ [last])
    (hstops : s.Stops earlier last) :
    run transport (s.fetchFrom path (s.listFilters query params) count number before).run
        inner state =
      ⟨(before ++ ·) <$> gather (earlier ++ [last]), (earlier ++ [last]).flatMap Run.log, inner,
        last.state⟩ := by
  -- The row is taken apart from its first page on, as `fetchFrom` does.
  induction earlier generalizing number count pages before counter state with
  | nil =>
    obtain _ | pages := pages
    · cases hrow
    obtain _ | count := count
    · omega
    rw [pageRuns_succ] at hrow
    obtain ⟨rfl, -⟩ := List.cons.inj hrow
    have hpage := run_fetchPage_of_listPath transport number hpath hinner state
    rw [run_fetchFrom_of_ends hpage hstops.ends, List.nil_append, gather_singleton,
      List.flatMap_singleton]
  | cons page earlier ih =>
    obtain _ | pages := pages
    · cases hrow
    obtain _ | count := count
    · omega
    rw [pageRuns_succ] at hrow
    obtain ⟨rfl, htail⟩ := List.cons.inj hrow
    obtain ⟨batch, hbatch, hfull⟩ :=
      exists_batch_of_not_ends (hstops.full _ List.mem_cons_self)
    have hpage := run_fetchPage_of_listPath transport number hpath hinner state
    have hcount : inner.count =
        (s.pageRun transport query params number counter state).counter.count + 1 := by
      rw [hinner, pageRun_of_ok transport number hpath]
      rfl
    have hrest := ih (before ++ batch) hcount (Nat.le_of_succ_le_succ hpages) htail
      ⟨fun page hpage => hstops.full page (List.mem_cons_of_mem _ hpage), hstops.ends⟩
    rw [run_fetchFrom_of_full hpage hbatch hfull, hrest, List.cons_append,
      gather_cons_of_ok hbatch, List.flatMap_cons, Functor.map_map]
    simp only [List.append_assoc, Run.after]

theorem run_getAll_of_pageRuns {transport : Transport σ}
    {earlier : List (ListRun E σ)} {last : ListRun E σ}
    {pages : Nat} {counter : Counter} {state : σ} (hpages : pages ≤ Page.last)
    (hrow : s.pageRuns transport query params 1 pages counter state = earlier ++ [last])
    (hstops : s.Stops earlier last) :
    run transport (s.getAll query params .all).run counter state =
      ⟨gather (earlier ++ [last]), (earlier ++ [last]).flatMap Run.log, counter.acquire.release,
        last.state⟩ := by
  cases hpath : s.listPath query params with
  | ok path =>
    have hcount : counter.acquire.count = counter.count + 1 := rfl
    rw [run_getAll_all transport hpath,
      run_fetchFrom_of_pageRuns hpath [] hcount hpages hrow hstops]
    simp only [List.nil_append, id_map']
  | error cause =>
    -- Without a path already the first page fails.
    obtain _ | pages := pages
    · cases earlier <;> cases hrow
    rw [pageRuns_succ, pageRun_of_error transport _ hpath] at hrow
    cases earlier with
    | nil =>
      obtain ⟨rfl, -⟩ := List.cons.inj hrow
      rw [run_getAll_of_error transport _ hpath]
      rfl
    | cons page earlier =>
      obtain ⟨rfl, -⟩ := List.cons.inj hrow
      exact absurd trivial (hstops.full _ List.mem_cons_self)

/-! ### Replies that run out -/

private theorem length_log_pageRun (transport : Transport σ) (number : Nat) (counter : Counter)
    (state : σ) :
    (s.pageRun transport query params number counter state).log.length ≤ 1 := by
  cases hpath : s.listPath query params with
  | error cause =>
    rw [pageRun_of_error transport _ hpath]
    exact Nat.zero_le 1
  | ok path =>
    rw [pageRun_of_ok transport number hpath]
    exact Nat.le_refl 1

private theorem length_log_pageRuns (transport : Transport σ) (number pages : Nat)
    (counter : Counter) (state : σ) :
    ((s.pageRuns transport query params number pages counter state).flatMap Run.log).length ≤
      pages := by
  induction pages generalizing number counter state with
  | zero => exact Nat.le_refl 0
  | succ pages ih =>
    rw [pageRuns_succ, List.flatMap_cons, List.length_append, Nat.add_comm pages 1]
    exact Nat.add_le_add (length_log_pageRun transport number counter state) (ih _ _ _)

/-- A page that does not end the row used up one reply of the script. -/
theorem sent_of_not_ends (script : Script) {number sent : Nat} {counter : Counter}
    (h : ¬ s.Ends (s.pageRun script.transport query params number counter sent).result) :
    sent < script.replies.length ∧
      (s.pageRun script.transport query params number counter sent).state = sent + 1 := by
  cases hpath : s.listPath query params with
  | error cause =>
    rw [pageRun_of_error script.transport _ hpath] at h
    exact absurd trivial h
  | ok path =>
    rw [pageRun_of_ok script.transport number hpath] at h ⊢
    refine ⟨Decidable.byContradiction fun hover => h ?_, rfl⟩
    have hnone : script.replies[sent]? = none := List.getElem?_eq_none (Nat.le_of_not_lt hover)
    simp only [Script.transport, Script.reply, hnone, Option.getD_none]
    exact trivial

/-- A script ends every row of pages once it has run out of replies. -/
theorem exists_pageRuns_of_script (s : EntityService E) (query : E) (params : Members String)
    (script : Script) (left sent number : Nat) (counter : Counter)
    (hleft : script.replies.length ≤ sent + left) :
    ∃ pages ≤ left + 1, ∃ earlier last,
      s.pageRuns script.transport query params number pages counter sent = earlier ++ [last] ∧
        s.Stops earlier last := by
  induction left generalizing number sent counter with
  | zero =>
    have hends : s.Ends (s.pageRun script.transport query params number counter sent).result :=
      Decidable.byContradiction fun h =>
        Nat.not_le_of_gt (sent_of_not_ends script h).1 hleft
    exact ⟨1, Nat.le_refl 1, [], _, pageRuns_succ _ _ _ _ _, nofun, hends⟩
  | succ left ih =>
    by_cases hends : s.Ends (s.pageRun script.transport query params number counter sent).result
    · exact ⟨1, Nat.le_add_left 1 _, [], _, pageRuns_succ _ _ _ _ _, nofun, hends⟩
    · have hstate := (sent_of_not_ends script hends).2
      obtain ⟨pages, hpages, earlier, last, hrow, hstops⟩ := ih (sent + 1) (number + 1)
        (s.pageRun script.transport query params number counter sent).counter (by omega)
      refine ⟨pages + 1, Nat.succ_le_succ hpages, _ :: earlier, last, ?_,
        List.forall_mem_cons.2 ⟨hends, hstops.full⟩, hstops.ends⟩
      rw [pageRuns_succ]
      simp only
      rw [hstate, hrow]
      rfl

/-- Listing all pages is listing single pages in a row up to the first that
fails or is not full, which is reached at the latest when replies run out. -/
theorem getAll_all_eq_pages_in_row (s : EntityService E) (query : E) (params : Members String) :
    (∀ (σ : Type) (transport : Transport σ) (counter : Counter) (state : σ) (pages : Nat)
        (earlier : List (ListRun E σ)) (last : ListRun E σ),
      pages ≤ Page.last →
      s.pageRuns transport query params 1 pages counter state = earlier ++ [last] →
      s.Stops earlier last →
        run transport (s.getAll query params .all).run counter state =
          ⟨gather (earlier ++ [last]), (earlier ++ [last]).flatMap Run.log,
            counter.acquire.release, last.state⟩ ∧
        ∀ cause, last.result = .error cause → gather (earlier ++ [last]) = .error cause) ∧
    s.Ends (.ok []) ∧
    ∀ (script : Script) (sent : Nat) (counter : Counter),
      script.replies.length - sent < Page.last →
        ∃ pages ≤ script.replies.length - sent + 1, ∃ earlier last,
          s.pageRuns script.transport query params 1 pages counter sent = earlier ++ [last] ∧
          s.Stops earlier last ∧
          (run script.transport (s.getAll query params .all).run counter sent).log.length ≤
            script.replies.length - sent + 1 := by
  refine ⟨?_, ends_nil s, ?_⟩
  · intro σ transport counter state pages earlier last hpages hrow hstops
    exact ⟨run_getAll_of_pageRuns hpages hrow hstops, fun _ => gather_of_error hstops⟩
  · intro script sent counter hreplies
    obtain ⟨pages, hpages, earlier, last, hrow, hstops⟩ :=
      exists_pageRuns_of_script s query params script (script.replies.length - sent) sent 1
        counter (by omega)
    have hlast : pages ≤ Page.last := by omega
    refine ⟨pages, hpages, earlier, last, hrow, hstops, ?_⟩
    rw [run_getAll_of_pageRuns hlast hrow hstops, ← hrow]
    exact Nat.le_trans (length_log_pageRuns _ _ _ _ _) hpages

def userPages : EntityService User := (ofEndpoints (.rest "/users")).withPageSize 2

def twoPages : Script :=
  ⟨[.ok (.array [.object [("id", .ofUInt64 1)], .object [("id", .ofUInt64 2)]]),
    .ok (.array [.object [("id", .ofUInt64 2)]])]⟩

theorem getAll_all_twoPages :
    (∃ earlier last,
      userPages.pageRuns twoPages.transport User.blank [] 1 2 .fresh 0 = earlier ++ [last] ∧
      userPages.Stops earlier last ∧
      (run twoPages.transport (userPages.getAll User.blank [] .all).run .fresh 0).result =
        .ok [{ User.blank with id := 1 }, { User.blank with id := 2 },
          { User.blank with id := 2 }]) ∧
    twoPages.replies.length - 1 < Page.last ∧
    (run twoPages.transport (userPages.getAll User.blank [] .all).run .fresh 1).log.length ≤
      2 := by
  have hpath : userPages.listPath User.blank [] = .ok "/users" :=
    Template.resolve_of_not_mem (by decide) _
  have hfirst : (userPages.pageRun twoPages.transport User.blank [] 1 .fresh 0).result =
      .ok [{ User.blank with id := 1 }, { User.blank with id := 2 }] := by
    rw [pageRun_of_ok _ _ hpath]
    rfl
  have hcounter : (userPages.pageRun twoPages.transport User.blank [] 1 .fresh 0).counter =
      ⟨0, 2⟩ := by
    rw [pageRun_of_ok _ _ hpath]
    rfl
  have hstate : (userPages.pageRun twoPages.transport User.blank [] 1 .fresh 0).state = 1 := by
    rw [pageRun_of_ok _ _ hpath]
    rfl
  have hsecond : (userPages.pageRun twoPages.transport User.blank [] 2 ⟨0, 2⟩ 1).result =
      .ok [{ User.blank with id := 2 }] := by
    rw [pageRun_of_ok _ _ hpath]
    rfl
  have hrow : userPages.pageRuns twoPages.transport User.blank [] 1 2 .fresh 0 =
      [userPages.pageRun twoPages.transport User.blank [] 1 .fresh 0] ++
        [userPages.pageRun twoPages.transport User.blank [] 2 ⟨0, 2⟩ 1] := by
    rw [pageRuns_succ]
    simp only [hcounter, hstate]
    rfl
  have hstops : userPages.Stops
      [userPages.pageRun twoPages.transport User.blank [] 1 .fresh 0]
      (userPages.pageRun twoPages.transport User.blank [] 2 ⟨0, 2⟩ 1) := by
    refine ⟨?_, ?_⟩
    · rw [List.forall_mem_singleton, hfirst]
      decide
    · rw [hsecond]
      decide
  obtain ⟨hall, -, hscript⟩ := getAll_all_eq_pages_in_row userPages User.blank []
  refine ⟨⟨_, _, hrow, hstops, ?_⟩, by decide, ?_⟩
  · rw [(hall Nat twoPages.transport .fresh 0 2 _ _ (by decide) hrow hstops).1]
    simp only [List.singleton_append]
    rw [gather_cons_of_ok hfirst, gather_singleton, hsecond]
    rfl
  · obtain ⟨_, _, _, _, _, _, hlength⟩ := hscript twoPages 1 .fresh (by decide)
    exact hlength

end EntityService

end MerchantApi
