import MerchantApi.Proofs.Activity
import MerchantApi.Proofs.Tasks
import MerchantApi.Services
import Mathlib.Data.List.Forall2
import Mathlib.Logic.Function.Basic
/-!
# Sessions

In a session services carry out tasks one after the other.  They share a
transport, but every service has a counter of its own, and all counters are
seen at every hook and at every request.  An operation is seen under the guards
that it holds and no others are counted for it, and it leaves every counter as
it was.
-/

namespace MerchantApi

namespace Activity

variable {α ι σ : Type}

def counts (counters : ι → Counter) (service : ι) : Nat := (counters service).count

/-- What is known of an operation afterwards: its result, what was seen of it
with all counts at that time, and the counts at its end. -/
structure Entry (ι α : Type) where
  result : α
  events : List (Event × (ι → Nat))
  counts : ι → Nat

structure SharedRun (ι α σ : Type) where
  result : α
  events : List (Event × (ι → Nat))
  counters : ι → Counter
  state : σ

def SharedRun.seen (event : Event) (counts : ι → Nat) (r : SharedRun ι α σ) :
    SharedRun ι α σ :=
  { r with events := (event, counts) :: r.events }

def SharedRun.entry (r : SharedRun ι α σ) : Entry ι α :=
  ⟨r.result, r.events, Activity.counts r.counters⟩

variable [DecidableEq ι]

def runAmong (transport : Transport σ) (service : ι) :
    Activity α → (ι → Counter) → σ → SharedRun ι α σ
  | .finish result, counters, state => ⟨result, [], counters, state⟩
  | .acquire next, counters, state =>
    runAmong transport service next
      (Function.update counters service (counters service).acquire) state
  | .release next, counters, state =>
    runAmong transport service next
      (Function.update counters service (counters service).release) state
  | .hook stage entity next, counters, state =>
    (runAmong transport service next counters state).seen (.hook stage entity) (counts counters)
  | .send request resume, counters, state =>
    let (reply, state) := transport state request
    (runAmong transport service (resume reply) counters state).seen (.request request)
      (counts counters)

variable (transport : Transport σ)

private theorem counts_update (counters : ι → Counter) (service : ι) (c : Counter) :
    counts (Function.update counters service c) =
      Function.update (counts counters) service c.count := by
  funext i
  by_cases hi : i = service
  · subst hi
    simp [counts]
  · simp [counts, hi]

/-- Among others a service does what it does alone, and the others stand still. -/
theorem runAmong_eq (service : ι) (x : Activity α) (counters : ι → Counter) (state : σ) :
    runAmong transport service x counters state =
      let r := run transport x (counters service) state
      ⟨r.result,
        r.log.map fun seen => (seen.1, Function.update (counts counters) service seen.2),
        Function.update counters service r.counter, r.state⟩ := by
  induction x generalizing counters state with
  | finish result => simp [runAmong, run]
  | acquire next ih => simp [runAmong, run, ih, counts_update]
  | release next ih => simp [runAmong, run, ih, counts_update]
  | hook stage entity next ih =>
    have hnow : Function.update (counts counters) service (counters service).count =
        counts counters := Function.update_eq_self service (counts counters)
    simp [runAmong, run, ih, SharedRun.seen, Run.seen, hnow]
  | send request resume ih =>
    have hnow : Function.update (counts counters) service (counters service).count =
        counts counters := Function.update_eq_self service (counts counters)
    simp [runAmong, run, ih, SharedRun.seen, Run.seen, hnow]

theorem entry_runAmong (service : ι) (x : Activity α) (counters : ι → Counter) (state : σ) :
    (runAmong transport service x counters state).entry =
      let r := run transport x (counters service) state
      ⟨r.result,
        r.log.map fun seen => (seen.1, Function.update (counts counters) service seen.2),
        Function.update (counts counters) service r.counter.count⟩ := by
  simp [runAmong_eq, SharedRun.entry, counts_update]

/-! ## Guards while an operation runs -/

/-- A disciplined activity is seen under the guards that it holds, and at its
end those are counted that it has left. -/
theorem Disciplined.run {seen : Nat → Prop} {x : Activity α} {held after : Nat}
    (hx : x.Disciplined seen held after) {base : Nat} {counter : Counter}
    (hcount : counter.count = base + held) (state : σ) :
    (∀ entry ∈ (run transport x counter state).log, ∃ now, seen now ∧ entry.2 = base + now) ∧
      (run transport x counter state).counter.count = base + after := by
  induction x generalizing held counter state with
  | finish result =>
    obtain rfl : held = after := hx
    exact ⟨nofun, hcount⟩
  | acquire next ih =>
    apply ih hx
    change counter.count + 1 = _
    omega
  | release next ih =>
    obtain ⟨hheld, hnext⟩ := hx
    apply ih hnext
    change counter.count - 1 = _
    omega
  | hook stage entity next ih =>
    obtain ⟨hlog, hend⟩ := ih hx.2 hcount state
    exact ⟨List.forall_mem_cons.2 ⟨⟨held, hx.1, hcount⟩, hlog⟩, hend⟩
  | send request resume ih =>
    obtain ⟨hlog, hend⟩ := ih _ (hx.2 _) hcount _
    exact ⟨List.forall_mem_cons.2 ⟨⟨held, hx.1, hcount⟩, hlog⟩, hend⟩

/-- A run depends on its counter only through what the counter reads. -/
theorem run_of_count_eq (x : Activity α) {c d : Counter} (h : c.count = d.count) (state : σ) :
    (run transport x c state).result = (run transport x d state).result ∧
      (run transport x c state).log = (run transport x d state).log ∧
      (run transport x c state).counter.count = (run transport x d state).counter.count ∧
      (run transport x c state).state = (run transport x d state).state := by
  induction x generalizing c d state with
  | finish result => exact ⟨rfl, rfl, h, rfl⟩
  | acquire next ih => exact ih (congrArg (· + 1) h) state
  | release next ih => exact ih (congrArg (· - 1) h) state
  | hook stage entity next ih =>
    obtain ⟨hresult, hlog, hcount, hstate⟩ := ih h state
    exact ⟨hresult, by simp [run, Run.seen, hlog, h], hcount, hstate⟩
  | send request resume ih =>
    obtain ⟨hresult, hlog, hcount, hstate⟩ := ih _ h _
    exact ⟨hresult, by simp [run, Run.seen, hlog, h], hcount, hstate⟩

/-! ## Tasks one after the other -/

variable {Task : Type} {service : Task → ι} {perform : Task → Activity α}

/-- Carry out tasks one after the other, each from where the one before it left
the counters and the transport. -/
def session (transport : Transport σ) (service : Task → ι) (perform : Task → Activity α) :
    List Task → (ι → Counter) → σ → List (Entry ι α)
  | [], _, _ => []
  | task :: tasks, counters, state =>
    let r := runAmong transport (service task) (perform task) counters state
    r.entry :: session transport service perform tasks r.counters r.state

/-- Whether all of an operation was seen with so many guards of its own service
counted on top of what was counted before, and nothing was counted afterwards. -/
structure Entry.Keeps (service : ι) (depth : Nat) (before : ι → Nat) (entry : Entry ι α) :
    Prop where
  seen : ∀ event ∈ entry.events,
    event.2 = Function.update before service (before service + depth)
  kept : entry.counts = before

/-- What holds of every run of a task holds of every entry of a session. -/
theorem forall₂_session {P : Task → Entry ι α → Prop}
    (h : ∀ task (counters : ι → Counter) (state : σ),
      P task (runAmong transport (service task) (perform task) counters state).entry)
    (tasks : List Task) (counters : ι → Counter) (state : σ) :
    List.Forall₂ P tasks (session transport service perform tasks counters state) := by
  induction tasks generalizing counters state with
  | nil => exact List.Forall₂.nil
  | cons task tasks ih => exact List.Forall₂.cons (h task counters state) (ih _ _)

theorem session_of_counts_eq (tasks : List Task) {c d : ι → Counter} (h : counts c = counts d)
    (state : σ) :
    session transport service perform tasks c state =
      session transport service perform tasks d state := by
  induction tasks generalizing c d state with
  | nil => rfl
  | cons task tasks ih =>
    obtain ⟨hresult, hlog, hcount, hnext⟩ :=
      run_of_count_eq transport (perform task) (congrFun h (service task)) state
    have hentry : (runAmong transport (service task) (perform task) c state).entry =
        (runAmong transport (service task) (perform task) d state).entry := by
      simp only [entry_runAmong]
      rw [hresult, hlog, hcount, h]
    have hstate : (runAmong transport (service task) (perform task) c state).state =
        (runAmong transport (service task) (perform task) d state).state := by
      simp only [runAmong_eq, hnext]
    simp only [session]
    rw [hentry, hstate, ih (congrArg Entry.counts hentry)]

end Activity

namespace Call

open Activity

variable {α ι σ Task : Type} (transport : Transport σ) {depth : Nat}

theorem Nested.run {x : Call α} (hx : x.Nested depth) (counter : Counter) (state : σ) :
    (∀ entry ∈ (run transport x.run counter state).log, entry.2 = counter.count + depth) ∧
      (Activity.run transport x.run counter state).counter.count = counter.count := by
  have hdisciplined : x.run.Disciplined (· = depth) 0 0 := hx (· = depth) 0 (Nat.zero_add depth)
  obtain ⟨hlog, hend⟩ := hdisciplined.run transport (Nat.add_zero _).symm state
  refine ⟨fun entry hentry => ?_, hend⟩
  obtain ⟨now, rfl, hcount⟩ := hlog entry hentry
  exact hcount

variable [DecidableEq ι]

theorem Nested.keeps {x : Call α} (hx : x.Nested depth) (service : ι) (counters : ι → Counter)
    (state : σ) :
    (runAmong transport service x.run counters state).entry.Keeps service depth
      (counts counters) := by
  obtain ⟨hlog, hend⟩ := hx.run transport (counters service) state
  rw [entry_runAmong]
  constructor
  · intro event hevent
    obtain ⟨seen, hseen, rfl⟩ := List.mem_map.1 hevent
    simp only [hlog seen hseen]
    rfl
  · simp only [hend]
    exact Function.update_eq_self service (counts counters)

/-- In a session every operation finds the counters as they were at first. -/
theorem keeps_session {service : Task → ι} {perform : Task → Call α} {depth : Task → Nat}
    (hnested : ∀ task, (perform task).Nested (depth task)) (tasks : List Task)
    (counters : ι → Counter) (state : σ) :
    List.Forall₂ (fun task entry => entry.Keeps (service task) (depth task) (counts counters))
      tasks (session transport service (fun task => (perform task).run) tasks counters state) := by
  induction tasks generalizing counters state with
  | nil => exact List.Forall₂.nil
  | cons task tasks ih =>
    have hfirst := (hnested task).keeps transport (service task) counters state
    have hcounts : counts (runAmong transport (service task) (perform task).run counters
        state).counters = counts counters := hfirst.kept
    refine List.Forall₂.cons hfirst ?_
    rw [← hcounts]
    exact ih _ _

end Call

/-! ## The services of the client -/

namespace Services

inductive Name where
  | merchants
  | mappings
deriving DecidableEq

inductive Task where
  | merchants (task : EntityService.Task Merchant)
  | mappings (task : MappingService.Task)

inductive Answer where
  | merchants (answer : EntityService.Answer Merchant)
  | mappings (answer : MappingService.Answer)

def perform (s : Services) : Task → Call Answer
  | .merchants task => do pure (.merchants (← s.merchants.perform task))
  | .mappings task => do pure (.mappings (← s.mappings.perform task))

namespace Task

def service : Task → Name
  | .merchants _ => .merchants
  | .mappings _ => .mappings

def depth : Task → Nat
  | .merchants _ => 1
  | .mappings task => task.depth

end Task

theorem nested_perform (s : Services) (task : Task) : (s.perform task).Nested task.depth := by
  cases task with
  | merchants task => exact (s.merchants.nested_perform task).bind fun _ => Call.nested_pure _
  | mappings task => exact (s.mappings.nested_perform task).bind fun _ => Call.nested_pure _

end Services

namespace Activity

/-- In every session of a service for entities, of the service for mappings and
of both together, whatever the counters read at first, operations are seen with
one guard of their own counted, or with two where mappings are loaded in
groups, and all counters read the same again when they end. -/
theorem counters_kept_in_sessions {σ : Type} (transport : Transport σ) (state : σ) :
    (∀ (E ι : Type) [Entity E] [DecidableEq ι] (s : EntityService E) (name : ι)
        (counters : ι → Counter) (tasks : List (EntityService.Task E)),
      List.Forall₂ (fun _ entry => entry.Keeps name 1 (counts counters)) tasks
        (session transport (fun _ => name) (fun task => (s.perform task).run) tasks counters
          state)) ∧
    (∀ (ι : Type) [DecidableEq ι] (s : MappingService) (name : ι) (counters : ι → Counter)
        (tasks : List MappingService.Task),
      List.Forall₂ (fun task entry => entry.Keeps name task.depth (counts counters)) tasks
        (session transport (fun _ => name) (fun task => (s.perform task).run) tasks counters
          state)) ∧
    ∀ (s : Services) (counters : Services.Name → Counter) (tasks : List Services.Task),
      List.Forall₂ (fun task entry => entry.Keeps task.service task.depth (counts counters)) tasks
        (session transport Services.Task.service (fun task => (s.perform task).run) tasks counters
          state) := by
  refine ⟨fun E ι _ _ s name counters tasks => ?_, fun ι _ s name counters tasks => ?_,
    fun s counters tasks => ?_⟩
  · exact Call.keeps_session transport s.nested_perform tasks counters state
  · exact Call.keeps_session transport s.nested_perform tasks counters state
  · exact Call.keeps_session transport s.nested_perform tasks counters state

end Activity

end MerchantApi
