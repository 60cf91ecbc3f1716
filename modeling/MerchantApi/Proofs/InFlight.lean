import MerchantApi.InFlight
import MerchantApi.Proofs.Loading
import MerchantApi.Proofs.Tasks
import MerchantApi.User
/-!
# Operations in flight are counted

However operations overlap, the counter of a service is the number of guards
that its waiting operations hold.  Each of them holds at least one, so the
counter is zero exactly when none of them is left.
-/

namespace MerchantApi

namespace InFlight

open Activity

variable {α : Type}

/-! ## Guards of one more operation -/

def addHeld (load : Nat → Nat) (service held : Nat) (i : Nat) : Nat :=
  load i + if i = service then held else 0

private theorem addHeld_zero (load : Nat → Nat) (service : Nat) :
    addHeld load service 0 = load := by
  funext i
  rw [addHeld, ite_self, Nat.add_zero]

private theorem addHeld_comm (load : Nat → Nat) (service held other more : Nat) :
    addHeld (addHeld load service held) other more =
      addHeld (addHeld load other more) service held := by
  funext i
  simp only [addHeld]
  omega

/-- The counters of the services count these numbers of guards. -/
def World.Counts (w : World) (load : Nat → Nat) : Prop :=
  ∀ (service : Nat) (counter : Counter), w.counters[service]? = some counter →
    counter.count = load service

theorem World.Counts.change {w : World} {load : Nat → Nat} {service held next : Nat}
    {change : Counter → Counter} (h : w.Counts (addHeld load service held))
    (hchange : ∀ c, c.count = load service + held → (change c).count = load service + next) :
    (w.count service change).Counts (addHeld load service next) := by
  intro i counter hcounter
  rw [World.count, List.getElem?_modify, Option.map_eq_map, Option.map_eq_some_iff] at hcounter
  obtain ⟨c, hc, rfl⟩ := hcounter
  have hcount := h i c hc
  rw [addHeld] at hcount ⊢
  by_cases hi : service = i
  · subst hi
    rw [if_pos rfl] at hcount ⊢
    rw [if_pos rfl]
    exact hchange c hcount
  · rw [if_neg (Ne.symm hi)] at hcount ⊢
    rw [if_neg hi]
    exact hcount

theorem World.Counts.acquire {w : World} {load : Nat → Nat} {service held : Nat}
    (h : w.Counts (addHeld load service held)) :
    (w.count service Counter.acquire).Counts (addHeld load service (held + 1)) :=
  h.change fun _ hc => congrArg Nat.succ hc

theorem World.Counts.release {w : World} {load : Nat → Nat} {service held : Nat}
    (h : w.Counts (addHeld load service held)) (hheld : 0 < held) :
    (w.count service Counter.release).Counts (addHeld load service (held - 1)) := by
  refine h.change fun c hc => ?_
  change c.count - 1 = _
  omega

/-! ## One operation -/

/-- What an operation holds while it waits, and that it goes on with discipline. -/
structure Waiting.Sound (operation : Waiting α) : Prop where
  holds : 0 < operation.held
  disciplined : ∀ reply, (operation.resume reply).Disciplined (0 < ·) operation.held 0

def Advance.Sound (load : Nat → Nat) (service : Nat) (a : Advance α) : Prop :=
  match a.progress with
  | .finished _ => a.world.Counts load
  | .waiting operation =>
    operation.service = service ∧ operation.Sound ∧
      a.world.Counts (addHeld load service operation.held)

theorem sound_advance (script : Script) (service : Nat) {load : Nat → Nat} {x : Activity α}
    {held : Nat} {w : World} (hx : x.Disciplined (0 < ·) held 0)
    (hw : w.Counts (addHeld load service held)) :
    (advance script service x held w).Sound load service := by
  induction x generalizing held w with
  | finish result =>
    obtain rfl : held = 0 := hx
    rw [addHeld_zero] at hw
    exact hw
  | acquire next ih => exact ih hx hw.acquire
  | release next ih => exact ih hx.2 (hw.release hx.1)
  | hook stage entity next ih => exact ih hx.2 hw
  | send request resume ih =>
    rw [advance]
    split
    · exact ih _ (hx.2 _) hw
    · exact ⟨rfl, ⟨hx.1, hx.2⟩, hw⟩

theorem Waiting.Sound.poll {operation : Waiting α} (h : operation.Sound) (script : Script)
    {load : Nat → Nat} {w : World}
    (hw : w.Counts (addHeld load operation.service operation.held)) :
    (operation.poll script w).Sound load operation.service := by
  rw [Waiting.poll]
  split
  · exact sound_advance script operation.service (h.disciplined _) hw
  · exact ⟨rfl, h, hw⟩

theorem Waiting.counts_drop {operation : Waiting α} {load : Nat → Nat} {w : World}
    (hw : w.Counts (addHeld load operation.service operation.held)) :
    (operation.drop w).Counts load := by
  have hreleased : ∀ released ≤ operation.held,
      ((List.range released).foldl
        (fun w _ => w.count operation.service Counter.release) w).Counts
          (addHeld load operation.service (operation.held - released)) := by
    intro released hle
    induction released with
    | zero => exact hw
    | succ released ih =>
      rw [List.range_succ, List.foldl_append, Nat.sub_add_eq]
      exact (ih (by omega)).release (by omega)
  have hall := hreleased operation.held (Nat.le_refl _)
  rwa [Nat.sub_self, addHeld_zero] at hall

/-! ### Boards of operations -/

def held : List (String × Waiting α) → Nat → Nat
  | [] => fun _ => 0
  | entry :: operations => addHeld (held operations) entry.2.service entry.2.held

theorem held_eq_zero_iff {operations : List (String × Waiting α)} {service : Nat}
    (h : ∀ entry ∈ operations, 0 < entry.2.held) :
    held operations service = 0 ↔ ∀ entry ∈ operations, entry.2.service ≠ service := by
  induction operations with
  | nil => exact ⟨fun _ => nofun, fun _ => rfl⟩
  | cons entry operations ih =>
    rw [List.forall_mem_cons] at h ⊢
    rw [← ih h.2, held, addHeld]
    by_cases hservice : service = entry.2.service
    · rw [if_pos hservice]
      have hheld := h.1
      exact ⟨fun hzero => by omega, fun hne => absurd hservice.symm hne.1⟩
    · rw [if_neg hservice, Nat.add_zero]
      exact ⟨fun hzero => ⟨Ne.symm hservice, hzero⟩, And.right⟩

def Board.others (b : Board α) (name : String) : List (String × Waiting α) :=
  b.operations.filter fun entry => entry.1 ≠ name

/-- The operations of a board have their own names, wait under guards, and hold
what the counters count. -/
structure Board.Sound (b : Board α) : Prop where
  names : (b.operations.map Prod.fst).Nodup
  operations : ∀ entry ∈ b.operations, entry.2.Sound
  counts : b.world.Counts (held b.operations)

private theorem others_eq_self {operations : List (String × Waiting α)} {name : String}
    (h : name ∉ operations.map Prod.fst) :
    operations.filter (fun entry => entry.1 ≠ name) = operations := by
  rw [List.filter_eq_self]
  intro entry hentry
  rw [decide_eq_true_iff]
  exact fun heq => h (heq ▸ List.mem_map_of_mem hentry)

/-- The guards of all operations are those of one of them and of the others. -/
theorem held_of_find? {operations : List (String × Waiting α)} {name : String}
    {entry : String × Waiting α} (hnames : (operations.map Prod.fst).Nodup)
    (h : operations.find? (fun entry => entry.1 = name) = some entry) :
    held operations =
      addHeld (held (operations.filter fun entry => entry.1 ≠ name)) entry.2.service
        entry.2.held := by
  induction operations with
  | nil => cases h
  | cons first rest ih =>
    rw [List.map_cons, List.nodup_cons] at hnames
    rw [List.find?_cons] at h
    by_cases hfirst : first.1 = name
    · rw [decide_eq_true hfirst] at h
      obtain rfl := Option.some.inj h
      rw [List.filter_cons_of_neg (by simpa using hfirst),
        others_eq_self (hfirst ▸ hnames.1), held]
    · rw [decide_eq_false hfirst] at h
      rw [List.filter_cons_of_pos (by simpa using hfirst), held, held, ih hnames.2 h,
        addHeld_comm]

namespace Board.Sound

variable {b : Board α} {name : String}

theorem of_find? (h : b.Sound) {operation : Waiting α} (hfind : b.find? name = some operation) :
    operation.Sound ∧
      b.world.Counts (addHeld (held (b.others name)) operation.service operation.held) := by
  rw [find?, Option.map_eq_some_iff] at hfind
  obtain ⟨entry, hentry, rfl⟩ := hfind
  have hcounts := h.counts
  rw [held_of_find? h.names hentry] at hcounts
  exact ⟨h.operations entry (List.mem_of_find?_eq_some hentry), hcounts⟩

private theorem nodup_others (h : b.Sound) : ((b.others name).map Prod.fst).Nodup :=
  h.names.sublist (List.filter_sublist.map Prod.fst)

theorem sound_of_mem_others (h : b.Sound) :
    ∀ entry ∈ b.others name, entry.2.Sound :=
  fun entry hentry => h.operations entry (List.mem_of_mem_filter hentry)

private theorem not_mem_others (b : Board α) (name : String) :
    name ∉ (b.others name).map Prod.fst := by
  intro hname
  obtain ⟨entry, hentry, heq⟩ := List.mem_map.1 hname
  exact of_decide_eq_true (List.mem_filter.1 hentry).2 heq

/-- An advance of the operation of a name takes its place on the board. -/
theorem settle (h : b.Sound) {service : Nat} {a : Advance α}
    (ha : a.Sound (held (b.others name)) service) : (b.settle name a).Sound := by
  rw [Advance.Sound] at ha
  rw [Board.settle]
  cases hprogress : a.progress with
  | finished result =>
    rw [hprogress] at ha
    exact ⟨h.nodup_others, h.sound_of_mem_others, ha⟩
  | waiting operation =>
    rw [hprogress] at ha
    obtain ⟨rfl, hsound, hcounts⟩ := ha
    refine ⟨List.nodup_cons.2 ⟨not_mem_others b name, h.nodup_others⟩,
      List.forall_mem_cons.2 ⟨hsound, h.sound_of_mem_others⟩, hcounts⟩

theorem drop (h : b.Sound) (name : String) :
    (b.drop name).Sound ∧ name ∉ (b.drop name).operations.map Prod.fst := by
  rw [Board.drop]
  cases hfind : b.find? name with
  | none =>
    refine ⟨h, fun hname => ?_⟩
    rw [find?, Option.map_eq_none_iff, List.find?_eq_none] at hfind
    obtain ⟨entry, hentry, heq⟩ := List.mem_map.1 hname
    exact hfind entry hentry (decide_eq_true heq)
  | some operation =>
    exact ⟨⟨h.nodup_others, h.sound_of_mem_others, Waiting.counts_drop (h.of_find? hfind).2⟩,
      not_mem_others b name⟩

theorem start (h : b.Sound) (script : Script) (name : String) (service : Nat) {x : Activity α}
    (hx : x.Disciplined (0 < ·) 0 0) : (b.start script name service x).1.Sound := by
  obtain ⟨hdrop, hname⟩ := h.drop name
  have hcounts := hdrop.counts
  rw [← others_eq_self hname, ← addHeld_zero (held _) service] at hcounts
  exact hdrop.settle (sound_advance script service hx hcounts)

theorem poll (h : b.Sound) (script : Script) (name : String) : (b.poll script name).1.Sound := by
  rw [Board.poll]
  cases hfind : b.find? name with
  | none => exact h
  | some operation =>
    obtain ⟨hsound, hcounts⟩ := h.of_find? hfind
    exact h.settle (hsound.poll script hcounts)

theorem release (h : b.Sound) (number : Nat) : (b.release number).Sound :=
  ⟨h.names, h.operations, h.counts⟩

/-- A counter is zero exactly when no operation of its service waits. -/
theorem count_eq_zero_iff (h : b.Sound) {service : Nat} {counter : Counter}
    (hcounter : b.world.counters[service]? = some counter) :
    counter.count = 0 ↔ ∀ entry ∈ b.operations, entry.2.service ≠ service := by
  rw [h.counts service counter hcounter]
  exact held_eq_zero_iff fun entry hentry => (h.operations entry hentry).holds

end Board.Sound

/-- The boards that operations of services lead to, however they overlap. -/
inductive Board.Reached (script : Script) : Board α → Prop where
  | fresh (services : Nat) : Reached script ⟨⟨List.replicate services .fresh, 0, []⟩, []⟩
  | start {b : Board α} (h : Reached script b) (name : String) (service : Nat) {x : Activity α}
      (hx : IsOperation x) : Reached script (b.start script name service x).1
  | poll {b : Board α} (h : Reached script b) (name : String) :
      Reached script (b.poll script name).1
  | drop {b : Board α} (h : Reached script b) (name : String) : Reached script (b.drop name)
  | release {b : Board α} (h : Reached script b) (number : Nat) :
      Reached script (b.release number)

theorem Board.Reached.sound {script : Script} {b : Board α} (h : b.Reached script) : b.Sound := by
  induction h with
  | fresh services =>
    refine ⟨List.nodup_nil, nofun, fun service counter hcounter => ?_⟩
    rw [List.eq_of_mem_replicate (List.mem_of_getElem? hcounter)]
    rfl
  | start _ name service hx ih => exact ih.start script name service hx.disciplined
  | poll _ name ih => exact ih.poll script name
  | drop _ name ih => exact (ih.drop name).1
  | release _ number ih => exact ih.release number

end InFlight

namespace LoadingBoard

/-- At every moment the counter is the number of guards that were acquired and
not dropped, and with operations that overlap it is zero exactly when none of
them is left. -/
theorem count_exact_under_overlap :
    (∀ steps : List Step,
      let b := fresh.after steps
      let changes := fresh.runChanges steps
      b.guards.length + changes.count .dropped = changes.count .acquired ∧
      (∀ handle, b.alive handle = true → b.counts[handle]? = some (some b.guards.length)) ∧
      (b.counter.isLoading = true ↔ b.guards ≠ []) ∧
      changes.foldlM Counter.after? .fresh = some b.counter ∧
      (∀ done, done <+: changes → ∃ c, done.foldlM Counter.after? .fresh = some c ∧
        c.count + done.count .dropped = done.count .acquired) ∧
      (∀ handle, (b.step (.forget handle)).1.counter = b.counter ∧
        (b.step (.forget handle)).1.guards = b.guards) ∧
      ∀ entry ∈ fresh.run steps, ∃ done, done <+: steps ∧ entry.1 = fresh.after done) ∧
    ∀ (α : Type) (script : Script) (b : InFlight.Board α) (service : Nat) (counter : Counter),
      b.Reached script → b.world.counters[service]? = some counter →
        counter.count = InFlight.held b.operations service ∧
        (counter.count = 0 ↔ ∀ entry ∈ b.operations, entry.2.service ≠ service) := by
  constructor
  · intro steps b changes
    obtain ⟨hexact, hchanges⟩ := exact_fresh.run steps
    have hcount := Counter.count_of_foldlM hchanges
    have hguards : b.counter.count = b.guards.length := hexact
    refine ⟨?_, ?_, ?_, hchanges, ?_, step_forget b, fun _ => exists_prefix_of_mem_run⟩
    · rw [← hguards]
      exact hcount.trans (Nat.zero_add _)
    · intro handle halive
      rw [counts_of_alive halive, hguards]
    · rw [Counter.isLoading, decide_eq_true_iff, hguards]
      exact List.length_pos_iff
    · intro done hdone
      obtain ⟨c, hc⟩ := Counter.foldlM_of_prefix hdone hchanges
      exact ⟨c, hc, (Counter.count_of_foldlM hc).trans (Nat.zero_add _)⟩
  · intro α script b service counter hreached hcounter
    exact ⟨hreached.sound.counts service counter hcounter,
      hreached.sound.count_eq_zero_iff hcounter⟩

/-- A guard replaced from a clone, whose original is dropped. -/
def replacingSteps : List Step := [.acquire 0 "a", .clone 0, .acquire 1 "a", .forget 0]

def waitingBoard : InFlight.Board (Except ApiError (EntityService.Answer User)) :=
  (InFlight.Board.start ⟨⟨[.fresh], 0, []⟩, []⟩ ⟨[]⟩ "ping" 0
    (((EntityService.ofEndpoints (.rest "/users")).perform
      (.execute (Request.get "/users/ping"))).run.bind .finish)).1

theorem count_exact_of_replacingSteps :
    (fresh.after replacingSteps).alive 1 = true ∧
      (fresh.after replacingSteps).counts = [none, some 1] ∧
      (fresh.after replacingSteps).counts[1]? =
        some (some (fresh.after replacingSteps).guards.length) ∧
      (∃ c, [Counter.Change.acquired, .acquired].foldlM Counter.after? .fresh = some c ∧
        c.count + 0 = 2) ∧
      waitingBoard.Reached ⟨[]⟩ ∧ waitingBoard.world.counters[0]? = some ⟨1, 1⟩ ∧
      InFlight.held waitingBoard.operations 0 = 1 := by
  obtain ⟨hboards, hactivities⟩ := count_exact_under_overlap
  obtain ⟨-, hcounts, -, -, hbegin, -, -⟩ := hboards replacingSteps
  have hreached : waitingBoard.Reached ⟨[]⟩ :=
    .start (.fresh 1) "ping" 0 (.entities _ (.execute _) id)
  have hcounter : waitingBoard.world.counters[0]? = some ⟨1, 1⟩ := by rfl
  exact ⟨rfl, rfl, hcounts 1 rfl, hbegin [.acquired, .acquired] ⟨[.dropped], rfl⟩, hreached,
    hcounter, (hactivities _ ⟨[]⟩ waitingBoard 0 ⟨1, 1⟩ hreached hcounter).1.symm⟩

end LoadingBoard

end MerchantApi
