import MerchantApi.Proofs.EntityService.Pages
import MerchantApi.Proofs.EntityService.Write
import MerchantApi.Proofs.Replies
/-!
# Records and the model

Every entity that a service returns was made by its model from one record of the
replies.  A list is made item by item, in the order of its pages and of the items
in each of them, and the first item that the model refuses is the end of it.
-/

namespace MerchantApi

namespace EntityService

open Activity Call

variable {E : Type}

def Answer.contents : Answer E → List E
  | .entity e => [e]
  | .entities es => es
  | .reply _ => []

section Readings

variable [Entity E]

/-- What the replies to a list come to: all items of all lists, or the first thing
that goes wrong, after which there are no replies. -/
inductive Gathers (s : EntityService E) : List Reply → Except ApiError (List E) → Prop where
  | done : Gathers s [] (.ok [])
  | stopped {reply : Reply} {cause : ApiError} (h : reply >>= s.readList = .error cause) :
    Gathers s [reply] (.error cause)
  | page {reply : Reply} {batch : List E} {later : List Reply} {result : Except ApiError (List E)}
    (h : reply >>= s.readList = .ok batch) (hlater : Gathers s later result) :
    Gathers s (reply :: later) (result.map (batch ++ ·))

/-- The same of the replies to the pages of a list, which go on for as long as pages are
full. -/
inductive Fetches (s : EntityService E) : List Reply → Except ApiError (List E) → Prop where
  | done : Fetches s [] (.ok [])
  | last (reply : Reply) : Fetches s [reply] (reply >>= s.readList)
  | full {reply : Reply} {batch : List E} {later : List Reply} {result : Except ApiError (List E)}
    (h : reply >>= s.readList = .ok batch) (hfull : ¬ s.Ends (.ok batch))
    (hlater : Fetches s later result) : Fetches s (reply :: later) (result.map (batch ++ ·))

inductive Collects (s : EntityService E) : List Reply → Except ApiError (List E) → Prop where
  | refused (cause : ApiError) : Collects s [] (.error cause)
  | fetched {replies : List Reply} {result : Except ApiError (List E)}
    (h : s.Fetches replies result) : Collects s replies result

inductive ComesTo (s : EntityService E) :
    Reading → List Reply → Except ApiError (Answer E) → Prop where
  | refused (reading : Reading) (cause : ApiError) : ComesTo s reading [] (.error cause)
  | entity (reply : Reply) : ComesTo s .entity [reply] ((reply >>= s.model).map .entity)
  | list {replies : List Reply} {result : Except ApiError (List E)}
    (h : s.Gathers replies result) : ComesTo s .list replies (result.map .entities)
  | verbatim (reply : Reply) : ComesTo s .verbatim [reply] (reply.map .reply)

/-- The answer of a task whose entities the model made from the records of its
replies: one from the only reply, or one from every item of every list. -/
inductive Made (s : EntityService E) : Reading → List Reply → Answer E → Prop where
  | entity {raw : Json} {e : E} (hmodel : s.model raw = .ok e) :
    Made s .entity [.ok raw] (.entity e)
  | entities {raws : List Json} {lists : List (List Json)} {es : List E}
    (hlists : List.Forall₂ (fun raw items => s.unwrapList raw = .ok items) raws lists)
    (hmodel : List.Forall₂ (fun item e => s.model item = .ok e) lists.flatten es) :
    Made s .list (raws.map .ok) (.entities es)
  | verbatim (raw : Json) : Made s .verbatim [.ok raw] (.reply raw)

/-- What is promised of the model of a service: a task returns exactly what the model
makes of its replies, the first record of a reply that the model refuses is the end of
the whole task, and what it guarantees holds of all entities. -/
structure PassesModel (s : EntityService E) (reading : Reading) (replies : List Reply)
    (result : Except ApiError (Answer E)) : Prop where
  made : ∀ answer, result = .ok answer → s.Made reading replies answer
  returned : replies ≠ [] → ∀ answer, s.Made reading replies answer → result = .ok answer
  refused_record : reading = .entity → ∀ raw cause, .ok raw ∈ replies →
    s.model raw = .error cause → result = .error cause
  refused_item : reading = .list → ∀ raw earlier item later cause, .ok raw ∈ replies →
    s.unwrapList raw = .ok (earlier ++ item :: later) →
    (∀ other ∈ earlier, ∃ e, s.model other = .ok e) → s.model item = .error cause →
      result = .error cause
  guaranteed : ∀ P : E → Prop, (∀ raw e, s.model raw = .ok e → P e) →
    ∀ answer, result = .ok answer → ∀ e ∈ answer.contents, P e

variable {s : EntityService E}

/-! ## What the operations come to -/

private theorem gathers_reply (s : EntityService E) (reply : Reply) :
    s.Gathers [reply] (reply >>= s.readList) := by
  cases hread : reply >>= s.readList with
  | error cause => exact .stopped hread
  | ok batch =>
    have hpage := Gathers.page hread .done
    rw [Except.map, List.append_nil] at hpage
    exact hpage

theorem ensures_fetchPage (path : String) (filters : Members String) (number : Nat) :
    (s.fetchPage path filters number).run.Ensures fun replies result =>
      ∃ reply, replies = [reply] ∧ result = reply >>= s.readList :=
  ensures_read _ _ fun reply => ⟨reply, rfl, rfl⟩

theorem Fetches.gathers {replies : List Reply} {result : Except ApiError (List E)}
    (h : s.Fetches replies result) : s.Gathers replies result := by
  induction h with
  | done => exact .done
  | last reply => exact s.gathers_reply reply
  | full hread _ _ ih => exact .page hread ih

theorem Collects.comesTo {replies : List Reply} {result : Except ApiError (List E)}
    (h : s.Collects replies result) : s.ComesTo .list replies (result.map .entities) := by
  cases h with
  | refused cause => exact .refused _ cause
  | fetched h => exact .list h.gathers

/-- The pages that are fetched after some items add theirs to these. -/
theorem ensures_fetchFrom (path : String) (filters : Members String) (count number : Nat)
    (before : List E) :
    (s.fetchFrom path filters count number before).run.Ensures fun replies result =>
      ∃ fetched, s.Fetches replies fetched ∧ result = fetched.map (before ++ ·) := by
  induction count generalizing number before with
  | zero =>
    refine ensures_pure ⟨.ok [], .done, ?_⟩
    rw [Except.map, List.append_nil]
  | succ count ih =>
    refine ensures_bind (ensures_fetchPage path filters number) ?_ ?_
    · rintro _ cause ⟨reply, rfl, hread⟩
      exact ⟨_, .last reply, hread ▸ rfl⟩
    · rintro _ batch ⟨reply, rfl, hread⟩
      split
      · exact ensures_pure ⟨_, .last reply, hread ▸ rfl⟩
      · rename_i hfull
        refine (ih (number + 1) (before ++ batch)).mono ?_
        rintro later _ ⟨fetched, hfetches, rfl⟩
        refine ⟨_, .full hread.symm hfull hfetches, ?_⟩
        cases fetched with
        | error cause => rfl
        | ok es => simp only [Except.map, List.append_assoc]

theorem ensures_getAll (query : E) (params : Members String) (page : Page) :
    (s.getAll query params page).run.Ensures s.Collects := by
  refine ensures_guarded (ensures_ofExcept_bind .refused fun path => ?_)
  cases page with
  | single number => exact ensures_read _ _ fun reply => .fetched (.last reply)
  | all =>
    refine (ensures_fetchFrom path _ Page.last 1 []).mono ?_
    rintro replies _ ⟨fetched, hfetches, rfl⟩
    have hsame : fetched.map ([] ++ ·) = fetched := by cases fetched <;> rfl
    rw [hsame]
    exact .fetched hfetches

theorem ensures_importFile (file : ImportFile) (headers : Members String) :
    (s.importFile file headers).run.Ensures s.Collects :=
  ensures_guarded (ensures_ofExcept_bind .refused fun _ =>
    ensures_read _ _ fun reply => .fetched (.last reply))

theorem ensures_applyHook_bind {α : Type} {Q : List Reply → Except ApiError α → Prop}
    {f : E → Call α} (stage : HookStage) (hook : Option (E → Except ApiError E)) (e : E)
    (herror : ∀ cause, Q [] (.error cause)) (hok : ∀ e, (f e).run.Ensures Q) :
    (applyHook stage hook e >>= f).run.Ensures Q := by
  cases hook with
  | none => exact hok e
  | some _ => exact ensures_hook_bind stage _ herror hok

theorem ensures_writing (stage : HookStage) (hook : Option (E → Except ApiError E))
    (t : Template) (send : String → Request) (e : E) :
    (s.writing stage hook t send e).run.Ensures fun replies result =>
      s.ComesTo .entity replies (result.map .entity) :=
  ensures_applyHook_bind stage hook e (.refused _) fun _ =>
    ensures_ofExcept_bind (.refused _) fun _ => ensures_read _ _ .entity

theorem ensures_perform (s : EntityService E) (task : Task E) :
    (s.perform task).run.Ensures (s.ComesTo task.reading) := by
  cases task with
  | create e => exact ensures_bind_pure (ensures_guarded (ensures_writing _ _ _ _ e))
  | update e => exact ensures_bind_pure (ensures_guarded (ensures_writing _ _ _ _ e))
  | get id =>
    exact ensures_bind_pure (ensures_guarded
      (ensures_ofExcept_bind (.refused _) fun path => ensures_read _ _ .entity))
  | delete id =>
    refine ensures_bind_pure (ensures_guarded
      (ensures_ofExcept_bind (.refused _) fun path => (ensures_send _).mono ?_))
    rintro _ reply rfl
    exact .verbatim reply
  | bulkDelete ids =>
    refine ensures_bind_pure (ensures_guarded
      (ensures_ofExcept_bind (.refused _) fun path => (ensures_send _).mono ?_))
    rintro _ reply rfl
    exact .verbatim reply
  | list query params page =>
    exact ensures_bind_pure ((ensures_getAll query params page).mono fun _ _ h => h.comesTo)
  | importFile file headers =>
    exact ensures_bind_pure ((ensures_importFile file headers).mono fun _ _ h => h.comesTo)
  | execute request =>
    refine ensures_bind_pure (ensures_guarded ((ensures_send _).mono ?_))
    rintro _ reply rfl
    exact .verbatim reply

/-! ## What is made of the records -/

theorem Gathers.made {replies : List Reply} {es : List E} (h : s.Gathers replies (.ok es)) :
    ∃ raws lists, replies = raws.map .ok ∧
      List.Forall₂ (fun raw items => s.unwrapList raw = .ok items) raws lists ∧
      List.Forall₂ (fun item e => s.model item = .ok e) lists.flatten es := by
  generalize hresult : (Except.ok es : Except ApiError (List E)) = result at h
  induction h generalizing es with
  | done =>
    obtain rfl : es = [] := Except.ok.inj hresult
    exact ⟨[], [], rfl, .nil, .nil⟩
  | stopped hread => cases hresult
  | page hread hlater ih =>
    obtain ⟨rest, rfl, rfl⟩ := Outcome.map_eq_ok_iff.1 hresult.symm
    obtain ⟨raws, lists, rfl, hlists, hmodel⟩ := ih rfl
    obtain ⟨raw, rfl, hbatch⟩ := Outcome.bind_eq_ok_iff.1 hread
    obtain ⟨items, hitems, hes⟩ := Outcome.bind_eq_ok_iff.1 hbatch
    exact ⟨raw :: raws, items :: lists, rfl, .cons hitems hlists,
      List.rel_append (Outcome.mapM_eq_ok_iff.1 hes) hmodel⟩

private theorem readList_of_unwrapList {raw : Json} {items : List Json}
    (h : s.unwrapList raw = .ok items) :
    ((.ok raw : Reply) >>= s.readList) = items.mapM s.model := by
  change s.readList raw = _
  rw [readList, h]
  rfl

/-- When all replies are lists, their items come to what the model makes of them. -/
theorem Gathers.eq_mapM {raws : List Json} {lists : List (List Json)}
    (hlists : List.Forall₂ (fun raw items => s.unwrapList raw = .ok items) raws lists)
    {result : Except ApiError (List E)} (h : s.Gathers (raws.map .ok) result) :
    result = lists.flatten.mapM s.model := by
  generalize hreplies : raws.map Except.ok = replies at h
  induction h generalizing raws lists with
  | done =>
    obtain rfl := List.map_eq_nil_iff.1 hreplies
    cases hlists
    rfl
  | stopped hread =>
    obtain ⟨raw, rfl, rfl⟩ := List.map_eq_singleton_iff.1 hreplies
    obtain ⟨items, rest, hitems, hrest, rfl⟩ := List.forall₂_cons_left_iff.1 hlists
    cases hrest
    rw [List.flatten_singleton, ← readList_of_unwrapList hitems, hread]
  | @page _ batch later result hread _ ih =>
    obtain ⟨raw, raws, rfl, rfl, rfl⟩ := List.map_eq_cons_iff.1 hreplies
    obtain ⟨items, rest, hitems, hrest, rfl⟩ := List.forall₂_cons_left_iff.1 hlists
    rw [readList_of_unwrapList hitems] at hread
    rw [List.flatten_cons, List.mapM_append, hread, ← ih hrest rfl]
    cases result <;> rfl

/-- A reply that cannot be read as a list is the last one. -/
theorem Gathers.refused {replies : List Reply} {result : Except ApiError (List E)}
    (h : s.Gathers replies result) {reply : Reply} (hreply : reply ∈ replies) {cause : ApiError}
    (hread : reply >>= s.readList = .error cause) : result = .error cause := by
  induction h with
  | done => cases hreply
  | stopped hstopped =>
    obtain rfl := List.mem_singleton.1 hreply
    exact hstopped.symm.trans hread
  | page hpage hlater ih =>
    obtain rfl | hreply := List.mem_cons.1 hreply
    · rw [hpage] at hread
      cases hread
    · rw [ih hreply]
      rfl

omit [Entity E] in
private theorem exists_record_of_mem {model : Json → Except ApiError E} {records : List Json}
    {es : List E} (h : List.Forall₂ (fun record e => model record = .ok e) records es) {e : E}
    (he : e ∈ es) : ∃ record, model record = .ok e := by
  induction h with
  | nil => cases he
  | cons hmodel _ ih =>
    obtain rfl | he := List.mem_cons.1 he
    · exact ⟨_, hmodel⟩
    · exact ih he

theorem Made.exists_record {reading : Reading} {replies : List Reply} {answer : Answer E}
    (h : s.Made reading replies answer) {e : E} (he : e ∈ answer.contents) :
    ∃ record, s.model record = .ok e := by
  cases h with
  | entity hmodel =>
    obtain rfl := List.mem_singleton.1 he
    exact ⟨_, hmodel⟩
  | entities hlists hmodel => exact exists_record_of_mem hmodel he
  | verbatim raw => cases he

theorem ComesTo.made {reading : Reading} {replies : List Reply} {answer : Answer E}
    (h : s.ComesTo reading replies (.ok answer)) : s.Made reading replies answer := by
  generalize hresult : (Except.ok answer : Except ApiError (Answer E)) = result at h
  cases h with
  | refused => cases hresult
  | entity reply =>
    obtain ⟨e, he, rfl⟩ := Outcome.map_eq_ok_iff.1 hresult.symm
    obtain ⟨raw, rfl, hmodel⟩ := Outcome.bind_eq_ok_iff.1 he
    exact .entity hmodel
  | list hgathers =>
    obtain ⟨es, rfl, rfl⟩ := Outcome.map_eq_ok_iff.1 hresult.symm
    obtain ⟨raws, lists, rfl, hlists, hmodel⟩ := hgathers.made
    exact .entities hlists hmodel
  | verbatim reply =>
    obtain ⟨raw, rfl, rfl⟩ := Outcome.map_eq_ok_iff.1 hresult.symm
    exact .verbatim raw

theorem ComesTo.passesModel {reading : Reading} {replies : List Reply}
    {result : Except ApiError (Answer E)} (h : s.ComesTo reading replies result) :
    s.PassesModel reading replies result where
  made answer hanswer := ComesTo.made (hanswer ▸ h)
  returned hreplies answer hmade := by
    cases h with
    | refused => exact absurd rfl hreplies
    | entity reply =>
      cases hmade with
      | entity hmodel => exact congrArg (Except.map Answer.entity) hmodel
    | list hgathers =>
      cases hmade with
      | entities hlists hmodel =>
        rw [hgathers.eq_mapM hlists, Outcome.mapM_eq_ok_iff.2 hmodel]
        rfl
    | verbatim reply =>
      cases hmade
      rfl
  refused_record := by
    rintro rfl raw cause hraw hmodel
    cases h with
    | refused => cases hraw
    | entity reply =>
      obtain rfl := List.mem_singleton.1 hraw
      exact congrArg (Except.map Answer.entity) hmodel
  refused_item := by
    rintro rfl raw earlier item later cause hraw hlist hearlier hmodel
    cases h with
    | refused => cases hraw
    | list hgathers =>
      rw [hgathers.refused hraw ((listFault_iff _ _).1 (.item hlist hearlier hmodel))]
      rfl
  guaranteed P hP answer hanswer e he := by
    obtain ⟨record, hrecord⟩ := (ComesTo.made (hanswer ▸ h)).exists_record he
    exact hP record e hrecord

/-- Whatever model a service has and wherever in a session it carries out a task,
no entity gets past the model. -/
theorem every_record_passes_model {ι σ : Type} [DecidableEq ι] (s : EntityService E)
    (model : Json → Except ApiError E) (name : ι) (transport : Transport σ)
    (tasks : List (Task E)) (counters : ι → Counter) (state : σ) (i : Nat) (task : Task E)
    (htask : tasks[i]? = some task) :
    let entries := session transport (fun _ => name)
      (fun task => ((s.withModel model).perform task).run) tasks counters state
    ∃ entry, entries[i]? = some entry ∧
      (s.withModel model).PassesModel task.reading
        (answers transport (requestsOf entry.events)
          (advance transport (requestsBefore i entries) state)) entry.result := by
  obtain ⟨entry, hentry, hcomes⟩ := Ensures.entry transport (fun _ => name)
    (fun task => ((s.withModel model).perform task).run)
    ((s.withModel model).ensures_perform task) htask counters state
  exact ⟨entry, hentry, hcomes.passesModel⟩

end Readings

def savedUser (raw : Json) : Except ApiError User := do
  let u ← Entity.hydrate raw
  if Entity.isNew u then .error (.decode (.other "record without id")) else .ok u

def pairedUsers : EntityService User := (ofEndpoints (.rest "/users")).withPageSize 2

def unsavedLast : Script :=
  ⟨[.ok (.object [("id", .ofUInt64 7)]),
    .ok (.array [.object [("id", .ofUInt64 1)], .object [("id", .ofUInt64 2)]]),
    .ok (.array [.object [("id", .ofUInt64 3)], .object []]),
    .ok (.array [.object [("id", .ofUInt64 8)], .object [("id", .ofUInt64 9)]])]⟩

def usersFile : ImportFile := ⟨"users.csv", "text/csv", "Mail\na@b.c\nd@e.f\n".toUTF8⟩

theorem every_record_passes_model_pairedUsers :
    let entries := session unsavedLast.transport (fun _ => ())
      (fun task => ((pairedUsers.withModel savedUser).perform task).run)
      [.get 7, .list User.blank [] .all, .importFile usersFile [("Mail", "email")]]
      (fun _ => .fresh) 0
    (∃ first u, entries[0]? = some first ∧ first.result = .ok (.entity u) ∧ u.id ≠ 0) ∧
    (∃ second, entries[1]? = some second ∧
      second.result = .error (.decode (.other "record without id"))) ∧
    ∃ third us, entries[2]? = some third ∧ third.result = .ok (.entities us) ∧
      us.length = 2 ∧ ∀ u ∈ us, u.id ≠ 0 := by
  intro entries
  have hends : entries.map (fun entry => (requestsOf entry.events).length) = [1, 2, 1] ∧
      entries.map (fun entry => entry.result.toOption.map (·.contents.length)) =
        [some 1, none, some 2] := by
    decide +kernel
  have hanswer : ∀ {i : Nat} {entry count}, entries[i]? = some entry →
      ([some 1, none, some 2][i]? : Option (Option Nat)) = some (some count) →
      ∃ answer, entry.result = .ok answer ∧ answer.contents.length = count := by
    intro i entry count hentry hcount
    rw [← hends.2, List.getElem?_map, hentry] at hcount
    cases hresult : entry.result with
    | error cause =>
      rw [Option.map_some, hresult] at hcount
      cases hcount
    | ok answer =>
      rw [Option.map_some, hresult] at hcount
      exact ⟨answer, rfl, Option.some.inj (Option.some.inj hcount)⟩
  have hstate : advance unsavedLast.transport (requestsBefore 1 entries) 0 = 1 := by
    decide +kernel
  have hsaved : ∀ raw u, savedUser raw = .ok u → u.id ≠ 0 := by
    intro raw u h
    obtain ⟨hydrated, -, hnew⟩ := Outcome.bind_eq_ok_iff.1 h
    split at hnew
    · cases hnew
    · rename_i hid
      obtain rfl := Except.ok.inj hnew
      exact fun hzero => hid (decide_eq_true hzero)
  have hpasses := every_record_passes_model pairedUsers savedUser () unsavedLast.transport
    [.get 7, .list User.blank [] .all, .importFile usersFile [("Mail", "email")]]
    (fun _ => .fresh) 0
  refine ⟨?_, ?_, ?_⟩
  · obtain ⟨first, hfirst, hget⟩ := hpasses 0 _ rfl
    change entries[0]? = some first at hfirst
    obtain ⟨answer, hresult, -⟩ := hanswer hfirst rfl
    have hguaranteed := hget.guaranteed _ hsaved answer hresult
    have hmade := hget.made answer hresult
    generalize answers unsavedLast.transport _ _ = replies at hmade
    cases hmade with
    | entity hmodel => exact ⟨first, _, hfirst, hresult, hguaranteed _ List.mem_cons_self⟩
  · obtain ⟨second, hsecond, hlist⟩ := hpasses 1 _ rfl
    change entries[1]? = some second at hsecond
    refine ⟨second, hsecond, ?_⟩
    have hlength := congrArg (·[1]?) hends.1
    rw [List.getElem?_map, hsecond] at hlength
    obtain ⟨page, last, htwo⟩ := List.length_eq_two.1 (Option.some.inj hlength)
    apply hlist.refused_item rfl (.array [.object [("id", .ofUInt64 3)], .object []])
      [.object [("id", .ofUInt64 3)]] (.object []) []
    · rw [htwo]
      change _ ∈ answers unsavedLast.transport [page, last]
        (advance unsavedLast.transport (requestsBefore 1 entries) 0)
      rw [hstate]
      exact List.mem_cons_of_mem _ List.mem_cons_self
    · rfl
    · exact List.forall_mem_singleton.2 ⟨_, rfl⟩
    · rfl
  · obtain ⟨third, hthird, hlist⟩ := hpasses 2 _ rfl
    change entries[2]? = some third at hthird
    obtain ⟨answer, hresult, hcount⟩ := hanswer hthird rfl
    have hguaranteed := hlist.guaranteed _ hsaved answer hresult
    have hmade := hlist.made answer hresult
    generalize answers unsavedLast.transport _ _ = replies at hmade
    cases hmade with
    | entities hlists hmodel => exact ⟨third, _, hthird, hresult, hcount, hguaranteed⟩

end EntityService

end MerchantApi
