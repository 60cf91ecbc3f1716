import MerchantApi.InFlight
import MerchantApi.Proofs.Activity
import Mathlib.Data.List.Forall2
/-!
# Replies that make no difference

An operation is indifferent to a change of its replies when it goes on with the
changed reply as it does with the other one.  Two transports whose replies differ
by such changes alone cannot be told apart by it: it sends the same to both, and
both runs end in the same way.
-/

namespace MerchantApi

namespace Activity

variable {α β σ : Type} {Alike : Reply → Reply → Prop}

/-- An activity that goes on in the same way after replies that are alike. -/
def Indifferent (Alike : Reply → Reply → Prop) : Activity α → Prop
  | .finish _ => True
  | .acquire next => next.Indifferent Alike
  | .release next => next.Indifferent Alike
  | .hook _ _ next => next.Indifferent Alike
  | .send _ resume =>
    (∀ reply other, Alike reply other → resume reply = resume other) ∧
      ∀ reply, (resume reply).Indifferent Alike

/-- A transport that goes through the same states as another one and gives replies
that are alike. -/
def AnswersLike (Alike : Reply → Reply → Prop) (transport other : Transport σ) : Prop :=
  ∀ state request, Alike (transport state request).1 (other state request).1 ∧
    (transport state request).2 = (other state request).2

theorem Indifferent.bind {x : Activity α} {f : α → Activity β} (hx : x.Indifferent Alike)
    (hf : ∀ a, (f a).Indifferent Alike) : (x.bind f).Indifferent Alike := by
  induction x with
  | finish result => exact hf result
  | acquire next ih => exact ih hx
  | release next ih => exact ih hx
  | hook stage entity next ih => exact ih hx
  | send request resume ih =>
    obtain ⟨hsame, hrest⟩ := hx
    refine ⟨fun reply other halike => ?_, fun reply => ih reply (hrest reply)⟩
    exact congrArg (Activity.bind · f) (hsame reply other halike)

theorem Indifferent.guarded {x : Activity α} (hx : x.Indifferent Alike) :
    x.guarded.Indifferent Alike :=
  Indifferent.bind (x := x) hx fun _ => trivial

theorem Indifferent.run {x : Activity α} (hx : x.Indifferent Alike)
    {transport other : Transport σ} (halike : AnswersLike Alike transport other)
    (counter : Counter) (state : σ) :
    run other x counter state = run transport x counter state := by
  induction x generalizing counter state with
  | finish result => rfl
  | acquire next ih => exact ih hx counter.acquire state
  | release next ih => exact ih hx counter.release state
  | hook stage entity next ih => exact congrArg (Run.seen _ _) (ih hx counter state)
  | send request resume ih =>
    obtain ⟨hsame, hrest⟩ := hx
    obtain ⟨hreply, hstate⟩ := halike state request
    refine congrArg (Run.seen _ _) ?_
    rw [← hsame _ _ hreply, ← hstate]
    exact ih _ (hrest _) counter (transport state request).2

theorem answersLike_script (hfailed : ∀ cause, Alike (.error cause) (.error cause))
    {script other : Script} (h : List.Forall₂ Alike script.replies other.replies) :
    AnswersLike Alike script.transport other.transport := by
  intro sent request
  refine ⟨?_, rfl⟩
  change Alike (script.reply sent request) (other.reply sent request)
  rw [Script.reply, Script.reply]
  by_cases hsent : sent < script.replies.length
  · have hother : sent < other.replies.length := h.length_eq ▸ hsent
    rw [List.getElem?_eq_getElem hsent, List.getElem?_eq_getElem hother]
    exact h.get hsent hother
  · have hother : ¬ sent < other.replies.length := h.length_eq ▸ hsent
    rw [List.getElem?_eq_none (Nat.le_of_not_lt hsent),
      List.getElem?_eq_none (Nat.le_of_not_lt hother)]
    exact hfailed _

end Activity

namespace Call

open Activity

variable {α β : Type} {Alike : Reply → Reply → Prop}

theorem indifferent_bind {x : Call α} {f : α → Call β} (hx : x.run.Indifferent Alike)
    (hf : ∀ a, (f a).run.Indifferent Alike) : (x >>= f).run.Indifferent Alike := by
  refine Indifferent.bind (x := x.run) hx fun result => ?_
  cases result with
  | error cause => trivial
  | ok a => exact hf a

theorem indifferent_read (request : Request) {read : Json → Except ApiError α}
    (h : ∀ reply other : Reply, Alike reply other → reply >>= read = other >>= read) :
    (send request >>= fun reply => ofExcept (read reply)).run.Indifferent Alike := by
  have hresume (reply : Reply) :
      (ExceptT.bindCont (fun raw => ofExcept (read raw)) reply : Activity _) =
        .finish (reply >>= read) := by
    cases reply <;> rfl
  refine ⟨fun reply other halike => ?_, fun reply => ?_⟩
  · change ExceptT.bindCont (fun raw => ofExcept (read raw)) reply =
      ExceptT.bindCont (fun raw => ofExcept (read raw)) other
    rw [hresume, hresume, h reply other halike]
  · change Activity.Indifferent Alike (ExceptT.bindCont (fun raw => ofExcept (read raw)) reply)
    rw [hresume]
    trivial

end Call

end MerchantApi
