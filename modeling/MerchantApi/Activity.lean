import MerchantApi.ApiError
import MerchantApi.Loading
import MerchantApi.Request
/-!
# Activities

An activity is what an operation does to the world around it, step by step: it
takes and gives back guards of the loading counter, calls hooks and sends
requests, and goes on with the reply to each.  The same activity is run over a
transport that answers at once, or is suspended at its requests.
-/

namespace MerchantApi

abbrev Reply := Except ApiError Json

inductive HookStage where
  | beforeCreate
  | beforeUpdate
deriving DecidableEq

inductive Activity (α : Type) where
  | finish (result : α)
  | acquire (next : Activity α)
  | release (next : Activity α)
  | hook (stage : HookStage) (entity : Json) (next : Activity α)
  | send (request : Request) (resume : Reply → Activity α)

namespace Activity

variable {α β γ σ : Type}

def bind : Activity α → (α → Activity β) → Activity β
  | .finish a, f => f a
  | .acquire next, f => .acquire (bind next f)
  | .release next, f => .release (bind next f)
  | .hook stage entity next, f => .hook stage entity (bind next f)
  | .send request resume, f => .send request fun reply => bind (resume reply) f

instance : Monad Activity where
  pure := .finish
  bind := bind

@[simp] theorem pure_def (a : α) : (pure a : Activity α) = .finish a := rfl

@[simp] theorem bind_def (x : Activity α) (f : α → Activity β) : x >>= f = x.bind f := rfl

theorem bind_finish (x : Activity α) : x.bind .finish = x := by
  induction x with
  | finish => rfl
  | acquire next ih => simp only [bind, ih]
  | release next ih => simp only [bind, ih]
  | hook stage entity next ih => simp only [bind, ih]
  | send request resume ih => simp only [bind, ih]

theorem bind_assoc (x : Activity α) (f : α → Activity β) (g : β → Activity γ) :
    (x.bind f).bind g = x.bind fun a => (f a).bind g := by
  induction x with
  | finish => rfl
  | acquire next ih => simp only [bind, ih]
  | release next ih => simp only [bind, ih]
  | hook stage entity next ih => simp only [bind, ih]
  | send request resume ih => simp only [bind, ih]

instance : LawfulMonad Activity :=
  LawfulMonad.mk' Activity bind_finish (fun _ _ => rfl) bind_assoc

def guarded (x : Activity α) : Activity α :=
  .acquire (x.bind fun result => .release (.finish result))

inductive Event where
  | hook (stage : HookStage) (entity : Json)
  | request (request : Request)
deriving DecidableEq

abbrev Transport (σ : Type) := σ → Request → Reply × σ

/-- The end of a run: what the activity returned, what was seen and the count
at that time, the counter and the transport afterwards. -/
structure Run (α σ : Type) where
  result : α
  log : List (Event × Nat)
  counter : Counter
  state : σ

def Run.seen (event : Event) (count : Nat) (r : Run α σ) : Run α σ :=
  { r with log := (event, count) :: r.log }

def run (transport : Transport σ) : Activity α → Counter → σ → Run α σ
  | .finish result, counter, state => ⟨result, [], counter, state⟩
  | .acquire next, counter, state => run transport next counter.acquire state
  | .release next, counter, state => run transport next counter.release state
  | .hook stage entity next, counter, state =>
    (run transport next counter state).seen (.hook stage entity) counter.count
  | .send request resume, counter, state =>
    let (reply, state) := transport state request
    (run transport (resume reply) counter state).seen (.request request) counter.count

end Activity

abbrev Call (α : Type) := ExceptT ApiError Activity α

namespace Call

variable {α : Type}

def send (request : Request) : Call Json := ExceptT.mk (.send request .finish)

def ofExcept (x : Except ApiError α) : Call α := ExceptT.mk (.finish x)

/-- Hold a guard for the whole of an operation, however it ends. -/
def guarded (x : Call α) : Call α := ExceptT.mk (Activity.guarded x.run)

def hook (stage : HookStage) (entity : Json) (result : Except ApiError α) : Call α :=
  ExceptT.mk (.hook stage entity (.finish result))

end Call

end MerchantApi
