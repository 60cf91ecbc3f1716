import MerchantApi.MappingService
/-!
# Who holds a guard, and when

An activity is disciplined when it gives back no guard that it does not hold,
and when what is seen of it is seen while it holds the right number of guards.
Operations are built from steps that hold no guard of their own and from
guards around them, so how deep the guards are nested can be read off.
-/

namespace MerchantApi

namespace Activity

variable {α β : Type} {seen : Nat → Prop}

/-- An activity that starts with `held` guards and ends with `after` of them, and
is seen only while the number that it holds is as `seen` says. -/
def Disciplined (seen : Nat → Prop) : Activity α → (held after : Nat) → Prop
  | .finish _, held, after => held = after
  | .acquire next, held, after => next.Disciplined seen (held + 1) after
  | .release next, held, after => 0 < held ∧ next.Disciplined seen (held - 1) after
  | .hook _ _ next, held, after => seen held ∧ next.Disciplined seen held after
  | .send _ resume, held, after =>
    seen held ∧ ∀ reply, (resume reply).Disciplined seen held after

theorem Disciplined.bind {x : Activity α} {f : α → Activity β} {held middle after : Nat}
    (hx : x.Disciplined seen held middle) (hf : ∀ a, (f a).Disciplined seen middle after) :
    (x.bind f).Disciplined seen held after := by
  induction x generalizing held with
  | finish result =>
    obtain rfl : held = middle := hx
    exact hf result
  | acquire next ih => exact ih hx
  | release next ih => exact ⟨hx.1, ih hx.2⟩
  | hook stage entity next ih => exact ⟨hx.1, ih hx.2⟩
  | send request resume ih => exact ⟨hx.1, fun reply => ih reply (hx.2 reply)⟩

theorem Disciplined.guarded {x : Activity α} {held : Nat}
    (h : x.Disciplined seen (held + 1) (held + 1)) : x.guarded.Disciplined seen held held :=
  Disciplined.bind (x := x) h fun _ => ⟨Nat.succ_pos held, rfl⟩

end Activity

namespace Call

open Activity

variable {α β : Type} {depth : Nat}

/-- An operation that is seen under so many guards of its own, and gives back all
of them. -/
def Nested (depth : Nat) (x : Call α) : Prop :=
  ∀ (seen : Nat → Prop) (held : Nat), seen (held + depth) → x.run.Disciplined seen held held

theorem nested_ofExcept (x : Except ApiError α) : (ofExcept x).Nested depth :=
  fun _ _ _ => rfl

theorem nested_pure (a : α) : (pure a : Call α).Nested depth :=
  fun _ _ _ => rfl

theorem nested_send (request : Request) : (send request).Nested 0 :=
  fun _ _ hseen => ⟨hseen, fun _ => rfl⟩

theorem nested_hook (stage : HookStage) (entity : Json) (result : Except ApiError α) :
    (hook stage entity result).Nested 0 :=
  fun _ _ hseen => ⟨hseen, rfl⟩

theorem Nested.bind {x : Call α} {f : α → Call β} (hx : x.Nested depth)
    (hf : ∀ a, (f a).Nested depth) : (x >>= f).Nested depth := by
  intro seen held hseen
  refine Disciplined.bind (x := x.run) (hx seen held hseen) fun result => ?_
  cases result with
  | error cause => rfl
  | ok a => exact hf a seen held hseen

theorem Nested.guarded {x : Call α} (hx : x.Nested depth) : (guarded x).Nested (depth + 1) := by
  intro seen held hseen
  refine Disciplined.guarded (x := x.run) (hx seen (held + 1) ?_)
  rwa [Nat.add_assoc, Nat.add_comm 1]

end Call

namespace EntityService

open Call

variable {E : Type} (s : EntityService E)

theorem nested_get (id : UInt64) : (s.get id).Nested 1 :=
  ((nested_ofExcept _).bind fun _ => (nested_send _).bind fun _ => nested_ofExcept _).guarded

theorem nested_delete (id : UInt64) : (s.delete id).Nested 1 :=
  ((nested_ofExcept _).bind fun _ => nested_send _).guarded

theorem nested_bulkDelete (ids : List UInt64) : (s.bulkDelete ids).Nested 1 :=
  ((nested_ofExcept _).bind fun _ => nested_send _).guarded

theorem nested_execute (request : Request) : (s.execute request).Nested 1 :=
  (nested_send request).guarded

variable [Entity E]

theorem nested_applyHook (stage : HookStage) (hook : Option (E → Except ApiError E)) (e : E) :
    (applyHook stage hook e).Nested 0 := by
  cases hook with
  | none => exact nested_pure e
  | some f => exact nested_hook stage _ (f e)

theorem nested_create (e : E) : (s.create e).Nested 1 :=
  ((nested_applyHook _ _ e).bind fun _ => (nested_ofExcept _).bind fun _ =>
    (nested_send _).bind fun _ => nested_ofExcept _).guarded

theorem nested_update (e : E) : (s.update e).Nested 1 :=
  ((nested_applyHook _ _ e).bind fun _ => (nested_ofExcept _).bind fun _ =>
    (nested_send _).bind fun _ => nested_ofExcept _).guarded

theorem nested_importFile (file : ImportFile) (headers : Members String) :
    (s.importFile file headers).Nested 1 :=
  ((nested_ofExcept _).bind fun _ => (nested_send _).bind fun _ => nested_ofExcept _).guarded

theorem nested_fetchPage (path : String) (filters : Members String) (number : Nat) :
    (s.fetchPage path filters number).Nested 0 :=
  (nested_send _).bind fun _ => nested_ofExcept _

theorem nested_fetchFrom (path : String) (filters : Members String) (count number : Nat)
    (before : List E) : (s.fetchFrom path filters count number before).Nested 0 := by
  induction count generalizing number before with
  | zero => exact nested_pure before
  | succ count ih =>
    refine (s.nested_fetchPage path filters number).bind fun batch => ?_
    split
    · exact nested_pure _
    · exact ih (number + 1) (before ++ batch)

theorem nested_getAll (query : E) (params : Members String) (page : Page) :
    (s.getAll query params page).Nested 1 := by
  refine ((nested_ofExcept _).bind fun path => ?_).guarded
  cases page with
  | single number => exact s.nested_fetchPage path _ number
  | all => exact s.nested_fetchFrom path _ Page.last 1 []

end EntityService

namespace MappingService

open Call

variable (s : MappingService)

/-- Loading holds a guard around the one of the list. -/
theorem nested_loadAll : s.loadAll.Nested 2 :=
  ((s.entities.nested_getAll _ _ _).bind fun _ => nested_pure _).guarded

theorem nested_bulkSave (groups : List Group) : (s.bulkSave groups).Nested 1 :=
  (nested_ofExcept _).bind fun _ => (s.entities.nested_execute _).bind fun _ => nested_ofExcept _

theorem nested_bulkDeleteByFields (fields : List String) :
    (s.bulkDeleteByFields fields).Nested 1 :=
  (nested_ofExcept _).bind fun _ => (s.entities.nested_execute _).bind fun _ => nested_ofExcept _

end MappingService

end MerchantApi
