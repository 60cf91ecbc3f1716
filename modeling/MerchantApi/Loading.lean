/-!
# Counting operations in flight

A service counts its operations in flight.  The counter changes only through
guards: acquiring one adds to it and releasing the guard takes that away.
Handles and guards share the counter, and watchers are told of its changes for
as long as one of them is left.
-/

namespace MerchantApi

structure Counter where
  count : Nat
  version : Nat
deriving DecidableEq

namespace Counter

def fresh : Counter := ⟨0, 0⟩

def acquire (c : Counter) : Counter := ⟨c.count + 1, c.version + 1⟩

def release (c : Counter) : Counter := ⟨c.count - 1, c.version + 1⟩

def isLoading (c : Counter) : Bool := 0 < c.count

end Counter

/-- A counter with the handles, the guards and the watchers that refer to it.
A handle is its state, alive or dropped; guards and watchers have names, and a
watcher knows the last change that it has seen. -/
structure LoadingBoard where
  counter : Counter
  handles : List Bool
  guards : List String
  watchers : List (String × Nat)
deriving DecidableEq

namespace LoadingBoard

def fresh : LoadingBoard := ⟨.fresh, [true], [], []⟩

inductive Step where
  | acquire (handle : Nat) (name : String)
  | release (name : String)
  | clone (handle : Nat)
  | forget (handle : Nat)
  | subscribe (handle : Nat) (name : String)
  | observe (name : String)
  | count

inductive Outcome where
  | done
  | released (held : Bool)
  | cloned (handle : Nat)
  | observed (changed : Option Bool) (value : Nat)
  | handleGone
deriving DecidableEq

def alive (b : LoadingBoard) (handle : Nat) : Bool := b.handles[handle]?.getD false

def isClosed (b : LoadingBoard) : Bool := b.guards.isEmpty && !b.handles.any id

def drop (b : LoadingBoard) (name : String) : LoadingBoard :=
  if name ∈ b.guards then
    { b with counter := b.counter.release, guards := b.guards.erase name }
  else b

/-- Acquire a guard.  The guard that had its name is dropped afterwards. -/
def acquire (b : LoadingBoard) (name : String) : LoadingBoard :=
  let taken := { b with counter := b.counter.acquire }
  let cleared := taken.drop name
  { cleared with guards := name :: cleared.guards }

/-- Let a watcher know of the changes so far; a new one is opened if need be. -/
def watch (b : LoadingBoard) (name : String) : LoadingBoard :=
  { b with
    watchers := (name, b.counter.version) :: b.watchers.filter fun w => w.1 ≠ name }

def seen? (b : LoadingBoard) (name : String) : Option Nat :=
  (b.watchers.find? fun w => w.1 = name).map Prod.snd

def step (b : LoadingBoard) : Step → LoadingBoard × Outcome
  | .acquire handle name =>
    if b.alive handle then (b.acquire name, .done) else (b, .handleGone)
  | .release name => (b.drop name, .released (name ∈ b.guards))
  | .clone handle =>
    if b.alive handle then
      ({ b with handles := b.handles ++ [true] }, .cloned b.handles.length)
    else (b, .handleGone)
  | .forget handle =>
    if b.alive handle then ({ b with handles := b.handles.set handle false }, .done)
    else (b, .handleGone)
  | .subscribe handle name =>
    if b.alive handle then (b.watch name, .done) else (b, .handleGone)
  | .observe name =>
    match b.seen? name with
    | none => (b, .done)
    | some version =>
      let changed := if b.isClosed then none else some (decide (version ≠ b.counter.version))
      (b.watch name, .observed changed b.counter.count)
  | .count => (b, .done)

/-- The counts that the handles read; a dropped one reads nothing. -/
def counts (b : LoadingBoard) : List (Option Nat) :=
  b.handles.map fun alive => if alive then some b.counter.count else none

def run (b : LoadingBoard) : List Step → List (LoadingBoard × Outcome)
  | [] => []
  | s :: steps =>
    let (next, outcome) := b.step s
    (next, outcome) :: run next steps

end LoadingBoard

end MerchantApi
