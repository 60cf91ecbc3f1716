import MerchantApi.Activity
/-!
# Operations that overlap

Operations are started, and each goes on until it has to wait for the reply to
a request.  A request is answered after its reply was released, when its
operation is polled.  An operation that is dropped gives back the guards that
it holds.
-/

namespace MerchantApi

/-- Replies by the number of the request, counted from zero. -/
structure Script where
  replies : List Reply

def Script.reply (s : Script) (number : Nat) (request : Request) : Reply :=
  s.replies[number]?.getD (.error (.transport none ("no reply for " ++ request.label)))

/-- A script as a transport, whose state is the number of requests so far. -/
def Script.transport (s : Script) : Activity.Transport Nat :=
  fun sent request => (s.reply sent request, sent + 1)

namespace InFlight

variable {α : Type}

/-- An operation that waits for the reply to a request, the counter it has
guards of, and their number. -/
structure Waiting (α : Type) where
  service : Nat
  held : Nat
  number : Nat
  request : Request
  resume : Reply → Activity α

/-- The counters of the services, the number of requests so far, and the
requests whose replies are released. -/
structure World where
  counters : List Counter
  sent : Nat
  released : List Nat

def World.count (w : World) (service : Nat) (change : Counter → Counter) : World :=
  { w with counters := w.counters.modify service change }

def World.counts (w : World) : List Nat := w.counters.map Counter.count

inductive Progress (α : Type) where
  | finished (result : α)
  | waiting (operation : Waiting α)

structure Advance (α : Type) where
  progress : Progress α
  log : List (Activity.Event × List Nat)
  world : World

def Advance.seen (event : Activity.Event) (counts : List Nat) (a : Advance α) : Advance α :=
  { a with log := (event, counts) :: a.log }

/-- Go on with an operation of a service that holds so many guards, up to its
end or to a request whose reply is not released. -/
def advance (script : Script) (service : Nat) :
    (activity : Activity α) → (held : Nat) → World → Advance α
  | .finish result, _, w => ⟨.finished result, [], w⟩
  | .acquire next, held, w =>
    advance script service next (held + 1) (w.count service Counter.acquire)
  | .release next, held, w =>
    advance script service next (held - 1) (w.count service Counter.release)
  | .hook stage entity next, held, w =>
    (advance script service next held w).seen (.hook stage entity) w.counts
  | .send request resume, held, w =>
    let number := w.sent
    let next := { w with sent := number + 1 }
    if number ∈ w.released then
      (advance script service (resume (script.reply number request)) held next).seen
        (.request request) w.counts
    else
      ⟨.waiting ⟨service, held, number, request, resume⟩, [(.request request, w.counts)], next⟩

def Waiting.poll (script : Script) (operation : Waiting α) (w : World) : Advance α :=
  if operation.number ∈ w.released then
    advance script operation.service
      (operation.resume (script.reply operation.number operation.request)) operation.held w
  else ⟨.waiting operation, [], w⟩

def Waiting.drop (operation : Waiting α) (w : World) : World :=
  (List.range operation.held).foldl (fun w _ => w.count operation.service Counter.release) w

structure Board (α : Type) where
  world : World
  operations : List (String × Waiting α)

def Board.find? (b : Board α) (name : String) : Option (Waiting α) :=
  (b.operations.find? fun entry => entry.1 = name).map Prod.snd

def Board.drop (b : Board α) (name : String) : Board α :=
  match b.find? name with
  | none => b
  | some operation =>
    { world := operation.drop b.world
      operations := b.operations.filter fun entry => entry.1 ≠ name }

/-- Keep an operation that still waits under its name; one that is finished is
forgotten. -/
def Board.settle (b : Board α) (name : String) (a : Advance α) : Board α :=
  let others := b.operations.filter fun entry => entry.1 ≠ name
  match a.progress with
  | .finished _ => { world := a.world, operations := others }
  | .waiting operation => { world := a.world, operations := (name, operation) :: others }

/-- Start an operation of a service under a name, in the place of the one that
had it. -/
def Board.start (b : Board α) (script : Script) (name : String) (service : Nat)
    (activity : Activity α) : Board α × Advance α :=
  let cleared := b.drop name
  let a := advance script service activity 0 cleared.world
  (cleared.settle name a, a)

def Board.poll (b : Board α) (script : Script) (name : String) :
    Board α × Option (Advance α) :=
  match b.find? name with
  | none => (b, none)
  | some operation =>
    let a := operation.poll script b.world
    (b.settle name a, some a)

/-- Release the reply to a request, which may not have been sent yet. -/
def Board.release (b : Board α) (number : Nat) : Board α :=
  { b with world := { b.world with released := number :: b.world.released } }

end InFlight

end MerchantApi
