import MerchantApi.Loading
import Mathlib.Data.List.Infix
/-!
# The loading counter is exact

The steps of a run change the counter in a row of acquisitions and drops.  Every
drop finds the guard that it gives back still counted, so the counter is never
taken below zero, and at each moment of the row it is the number of
acquisitions less the number of drops.
-/

namespace MerchantApi

namespace Counter

inductive Change where
  | acquired
  | dropped
deriving DecidableEq

/-- The counter after a change; nothing is dropped from a counter of nothing. -/
def after? (c : Counter) : Change → Option Counter
  | .acquired => some c.acquire
  | .dropped => if 0 < c.count then some c.release else none

theorem count_of_after? {c d : Counter} {change : Change} (h : c.after? change = some d) :
    d.count + [change].count .dropped = c.count + [change].count .acquired := by
  cases change with
  | acquired =>
    obtain rfl := Option.some.inj h
    rfl
  | dropped =>
    rw [after?] at h
    split at h
    · obtain rfl := Option.some.inj h
      change c.count - 1 + 1 = c.count
      omega
    · cases h

theorem count_of_foldlM {changes : List Change} {c d : Counter}
    (h : changes.foldlM after? c = some d) :
    d.count + changes.count .dropped = c.count + changes.count .acquired := by
  induction changes generalizing c with
  | nil =>
    obtain rfl := Option.some.inj h
    rfl
  | cons change changes ih =>
    rw [List.foldlM_cons, Option.bind_eq_bind, Option.bind_eq_some_iff] at h
    obtain ⟨e, hfirst, hrest⟩ := h
    have hhead := count_of_after? hfirst
    have htail := ih hrest
    rw [← List.singleton_append, List.count_append, List.count_append]
    omega

/-- Changes that go through one after the other went through at every moment. -/
theorem foldlM_of_prefix {done changes : List Change} {c d : Counter}
    (hbegin : done <+: changes) (h : changes.foldlM after? c = some d) :
    ∃ e, done.foldlM after? c = some e := by
  obtain ⟨rest, rfl⟩ := hbegin
  rw [List.foldlM_append, Option.bind_eq_bind, Option.bind_eq_some_iff] at h
  obtain ⟨e, he, -⟩ := h
  exact ⟨e, he⟩

end Counter

namespace LoadingBoard

open Counter

def dropChanges (b : LoadingBoard) (name : String) : List Change :=
  if name ∈ b.guards then [.dropped] else []

def changes (b : LoadingBoard) : Step → List Change
  | .acquire handle name =>
    if b.alive handle then .acquired :: b.dropChanges name else []
  | .release name => b.dropChanges name
  | .clone _ | .forget _ | .subscribe _ _ | .observe _ | .count => []

def runChanges (b : LoadingBoard) : List Step → List Change
  | [] => []
  | s :: steps => b.changes s ++ (b.step s).1.runChanges steps

def after (b : LoadingBoard) (steps : List Step) : LoadingBoard :=
  steps.foldl (fun b s => (b.step s).1) b

theorem exists_prefix_of_mem_run {b : LoadingBoard} {steps : List Step}
    {entry : LoadingBoard × Outcome} (h : entry ∈ b.run steps) :
    ∃ done, done <+: steps ∧ entry.1 = b.after done := by
  induction steps generalizing b with
  | nil => cases h
  | cons s steps ih =>
    rcases List.mem_cons.1 h with rfl | hrest
    · exact ⟨[s], List.prefix_append [s] steps, rfl⟩
    · obtain ⟨done, hdone, hentry⟩ := ih hrest
      exact ⟨s :: done, List.cons_prefix_cons.2 ⟨rfl, hdone⟩, hentry⟩

def Exact (b : LoadingBoard) : Prop := b.counter.count = b.guards.length

theorem drop_spec (b : LoadingBoard) (name : String)
    (h : name ∈ b.guards → 0 < b.counter.count) :
    (b.dropChanges name).foldlM after? b.counter = some (b.drop name).counter ∧
      (b.drop name).counter.count + b.guards.length =
        b.counter.count + (b.drop name).guards.length := by
  rw [LoadingBoard.drop, dropChanges]
  split
  · rename_i hname
    have hlength := List.length_erase_of_mem hname
    have hguards := List.length_pos_of_mem hname
    have hpos := h hname
    refine ⟨?_, ?_⟩
    · rw [List.foldlM_cons, after?, if_pos hpos]
      rfl
    · simp only [hlength, release]
      omega
  · exact ⟨rfl, rfl⟩

theorem Exact.drop {b : LoadingBoard} (h : b.Exact) (name : String) :
    (b.drop name).Exact ∧
      (b.dropChanges name).foldlM after? b.counter = some (b.drop name).counter := by
  obtain ⟨hchanges, hcount⟩ := drop_spec b name fun hname => by
    rw [h]
    exact List.length_pos_of_mem hname
  rw [Exact] at h ⊢
  exact ⟨by omega, hchanges⟩

/-- The new guard is counted before the one that it replaces is dropped. -/
theorem Exact.acquire {b : LoadingBoard} (h : b.Exact) (name : String) :
    (b.acquire name).Exact ∧
      (.acquired :: b.dropChanges name).foldlM after? b.counter =
        some (b.acquire name).counter := by
  obtain ⟨hchanges, hcount⟩ :=
    drop_spec { b with counter := b.counter.acquire } name fun _ => Nat.succ_pos b.counter.count
  refine ⟨?_, hchanges⟩
  rw [Exact] at h ⊢
  simp only [LoadingBoard.acquire, Counter.acquire, List.length_cons] at hcount ⊢
  omega

theorem Exact.step {b : LoadingBoard} (h : b.Exact) (s : Step) :
    (b.step s).1.Exact ∧ (b.changes s).foldlM after? b.counter = some (b.step s).1.counter := by
  cases s with
  | acquire handle name =>
    rw [LoadingBoard.step, changes]
    split
    · exact h.acquire name
    · exact ⟨h, rfl⟩
  | release name => exact h.drop name
  | clone handle =>
    rw [LoadingBoard.step]
    split <;> exact ⟨h, rfl⟩
  | forget handle =>
    rw [LoadingBoard.step]
    split <;> exact ⟨h, rfl⟩
  | subscribe handle name =>
    rw [LoadingBoard.step]
    split <;> exact ⟨h, rfl⟩
  | observe name =>
    rw [LoadingBoard.step]
    split <;> exact ⟨h, rfl⟩
  | count => exact ⟨h, rfl⟩

theorem Exact.run {b : LoadingBoard} (h : b.Exact) (steps : List Step) :
    (b.after steps).Exact ∧
      (b.runChanges steps).foldlM after? b.counter = some (b.after steps).counter := by
  induction steps generalizing b with
  | nil => exact ⟨h, rfl⟩
  | cons s steps ih =>
    obtain ⟨hstep, hchanges⟩ := h.step s
    obtain ⟨hrun, hrest⟩ := ih hstep
    refine ⟨hrun, ?_⟩
    rw [runChanges, List.foldlM_append, hchanges]
    exact hrest

theorem exact_fresh : fresh.Exact := rfl

/-- Handles that come and go leave the counter and the guards alone. -/
theorem step_forget (b : LoadingBoard) (handle : Nat) :
    (b.step (.forget handle)).1.counter = b.counter ∧
      (b.step (.forget handle)).1.guards = b.guards := by
  rw [LoadingBoard.step]
  split <;> exact ⟨rfl, rfl⟩

theorem counts_of_alive {b : LoadingBoard} {handle : Nat} (h : b.alive handle = true) :
    b.counts[handle]? = some (some b.counter.count) := by
  rw [alive] at h
  rw [counts, List.getElem?_map]
  cases hhandle : b.handles[handle]? with
  | none => rw [hhandle] at h; cases h
  | some state =>
    rw [hhandle, Option.getD_some] at h
    rw [h]
    rfl

end LoadingBoard

end MerchantApi
