import MerchantApi.Proofs.Entity.Stability
import MerchantApi.Proofs.EntityService.Records
import MerchantApi.Proofs.Indifference
/-!
# Lists in envelopes

A list comes bare or in an envelope, which is an object that has it in the list
field of the service.  An operation that reads lists sees what a reply carries and
nothing of the envelope around it, and it takes nothing but a list, or none at all,
for a list.
-/

namespace MerchantApi

namespace EntityService

open Activity Call

variable {E σ : Type}

/-- A value carries what it has in the list field of the service, or itself if it has
nothing there. -/
inductive Carries (s : EntityService E) (inner : Json) : Json → Prop where
  | bare (h : ∀ field, s.listField = some field → inner.member? field = none) :
    Carries s inner inner
  | enveloped {envelope : Json} {field : String} (hfield : s.listField = some field)
    (hinner : envelope.member? field = some inner) : Carries s inner envelope

/-- Replies that are the same but for the envelopes around what they carry. -/
inductive SameInside (s : EntityService E) : Reply → Reply → Prop where
  | failed (cause : ApiError) : SameInside s (.error cause) (.error cause)
  | carrying {inner raw other : Json} (hraw : s.Carries inner raw)
    (hother : s.Carries inner other) : SameInside s (.ok raw) (.ok other)

theorem exists_carries (s : EntityService E) (raw : Json) : ∃ inner, s.Carries inner raw := by
  cases hfield : s.listField with
  | none =>
    refine ⟨raw, .bare fun field h => ?_⟩
    rw [hfield] at h
    cases h
  | some field =>
    cases hinner : raw.member? field with
    | some inner => exact ⟨inner, .enveloped hfield hinner⟩
    | none =>
      refine ⟨raw, .bare fun other h => ?_⟩
      rw [hfield] at h
      rwa [← Option.some.inj h]

section Reading

variable [Entity E] {s : EntityService E} {inner raw : Json}

inductive ReadsLists (s : EntityService E) : Call (List E) → Prop where
  | getAll (query : E) (params : Members String) (page : Page) :
    ReadsLists s (s.getAll query params page)
  | importFile (file : ImportFile) (headers : Members String) :
    ReadsLists s (s.importFile file headers)

def itemsOf (E : Type) [Entity E] : Json → Except ApiError (List Json)
  | .array items => .ok items
  | .null => .ok []
  | other => .error (.decode (.notAList (Entity.name E) other))

private theorem unwrapList_eq (s : EntityService E) (raw : Json) :
    s.unwrapList raw = itemsOf E ((s.listField.bind raw.member?).getD raw) := by
  cases hfield : s.listField with
  | none =>
    rw [Option.bind_none, Option.getD_none]
    cases raw <;> simp only [unwrapList, hfield, itemsOf]
  | some field =>
    cases raw with
    | object members =>
      simp only [unwrapList, hfield, Option.bind_some, Json.member?]
      cases (Members.get? members field).getD (.object members) <;> rfl
    | _ => rfl

theorem unwrapList_of_carries (h : s.Carries inner raw) : s.unwrapList raw = itemsOf E inner := by
  rw [unwrapList_eq]
  cases h with
  | bare hbare =>
    rw [Option.bind_eq_none_iff.2 hbare, Option.getD_none]
  | enveloped hfield hinner =>
    rw [hfield, Option.bind_some, hinner, Option.getD_some]

theorem readList_of_carries (h : s.Carries inner raw) :
    ((.ok raw : Reply) >>= s.readList) = itemsOf E inner >>= (·.mapM s.model) := by
  change s.readList raw = _
  rw [readList, unwrapList_of_carries h]

private theorem itemsOf_eq_error (hlist : ∀ items, inner ≠ .array items) (hnull : inner ≠ .null) :
    itemsOf E inner = .error (.decode (.notAList (Entity.name E) inner)) := by
  cases inner with
  | array items => exact absurd rfl (hlist items)
  | null => exact absurd rfl hnull
  | _ => rfl

/-! ## What the envelopes leave unchanged -/

theorem readList_of_sameInside {reply other : Reply} (h : s.SameInside reply other) :
    reply >>= s.readList = other >>= s.readList := by
  cases h with
  | failed cause => rfl
  | carrying hraw hother => rw [readList_of_carries hraw, readList_of_carries hother]

theorem indifferent_fetchPage (path : String) (filters : Members String) (number : Nat) :
    (s.fetchPage path filters number).run.Indifferent s.SameInside :=
  indifferent_read _ fun _ _ => readList_of_sameInside

theorem indifferent_fetchFrom (path : String) (filters : Members String) (count number : Nat)
    (before : List E) :
    (s.fetchFrom path filters count number before).run.Indifferent s.SameInside := by
  induction count generalizing number before with
  | zero => trivial
  | succ count ih =>
    refine indifferent_bind (indifferent_fetchPage path filters number) fun batch => ?_
    split
    · trivial
    · exact ih (number + 1) (before ++ batch)

theorem ReadsLists.indifferent {x : Call (List E)} (hx : s.ReadsLists x) :
    x.run.Indifferent s.SameInside := by
  cases hx with
  | getAll query params page =>
    refine Indifferent.guarded (indifferent_bind trivial fun path => ?_)
    cases page with
    | single number => exact indifferent_fetchPage path _ number
    | all => exact indifferent_fetchFrom path _ Page.last 1 []
  | importFile file headers =>
    exact Indifferent.guarded (indifferent_bind trivial fun path =>
      indifferent_read _ fun _ _ => readList_of_sameInside)

theorem ReadsLists.ensures {x : Call (List E)} (hx : s.ReadsLists x) :
    x.run.Ensures s.Collects := by
  cases hx with
  | getAll query params page => exact ensures_getAll query params page
  | importFile file headers => exact ensures_importFile file headers

/-! ## Replies that end a list -/

/-- A reply that is no full page is the last one, and adds what it is read as to the
pages before it. -/
theorem Fetches.last_of_ends {replies earlier later : List Reply} {reply : Reply}
    {result : Except ApiError (List E)} (h : s.Fetches replies result)
    (hreplies : replies = earlier ++ reply :: later) (hends : s.Ends (reply >>= s.readList)) :
    later = [] ∧ ∃ es, s.Gathers earlier (.ok es) ∧
      result = (reply >>= s.readList).map (es ++ ·) := by
  induction h generalizing earlier with
  | done => simp at hreplies
  | last other =>
    obtain ⟨rfl, hrest⟩ | ⟨_, -, hnil⟩ := List.cons_eq_append_iff.1 hreplies
    · obtain ⟨rfl, rfl⟩ := List.cons.inj hrest
      refine ⟨rfl, [], .done, ?_⟩
      cases reply >>= s.readList <;> rfl
    · simp at hnil
  | full hread hfull hlater ih =>
    obtain ⟨rfl, hrest⟩ | ⟨others, rfl, hrest⟩ := List.cons_eq_append_iff.1 hreplies
    · obtain ⟨rfl, rfl⟩ := List.cons.inj hrest
      exact absurd (hread ▸ hends) hfull
    · obtain ⟨rfl, es, hgathers, rfl⟩ := ih hrest
      refine ⟨rfl, _, .page hread hgathers, ?_⟩
      cases reply >>= s.readList with
      | error cause => rfl
      | ok last => simp only [Except.map, List.append_assoc]

theorem Collects.fetches_of_ne_nil {replies : List Reply} {result : Except ApiError (List E)}
    (h : s.Collects replies result) (hreplies : replies ≠ []) : s.Fetches replies result := by
  cases h with
  | refused cause => exact absurd rfl hreplies
  | fetched h => exact h

/-- Envelopes make no difference to an operation that reads lists.  A reply that carries
no list is the last one: if there is nothing in it, the items before it are all, and
anything else in it is an error. -/
theorem envelopes_make_no_difference {E σ : Type} [Entity E] (s : EntityService E)
    {x : Call (List E)} (hx : s.ReadsLists x) {transport other : Transport σ}
    (halike : AnswersLike s.SameInside transport other) (counter : Counter) (state : σ) :
    let r := run transport x.run counter state
    run other x.run counter state = r ∧
    ∀ earlier raw later,
      answers transport (requestsOf r.log) state = earlier ++ .ok raw :: later →
      (∃ inner, s.Carries inner raw) ∧
      ∀ inner, s.Carries inner raw →
        (inner = .null →
          later = [] ∧ ∃ es, s.Gathers earlier (.ok es) ∧ r.result = .ok es) ∧
        ((∀ items, inner ≠ .array items) → inner ≠ .null →
          later = [] ∧ r.result = .error (.decode (.notAList (Entity.name E) inner))) := by
  intro r
  refine ⟨hx.indifferent.run halike counter state, fun earlier raw later hanswers => ?_⟩
  refine ⟨s.exists_carries raw, fun inner hinner => ?_⟩
  have hfetches : s.Fetches (earlier ++ .ok raw :: later) r.result := by
    have hcollects : s.Collects (answers transport (requestsOf r.log) state) r.result :=
      hx.ensures.run transport counter state
    rw [hanswers] at hcollects
    exact hcollects.fetches_of_ne_nil (by simp)
  have hread := readList_of_carries hinner
  constructor
  · rintro rfl
    rw [itemsOf] at hread
    obtain ⟨hlater, es, hgathers, hresult⟩ :=
      hfetches.last_of_ends rfl (hread ▸ s.ends_nil)
    rw [hread] at hresult
    exact ⟨hlater, es, hgathers, hresult.trans (congrArg Except.ok (List.append_nil es))⟩
  · intro hlist hnull
    rw [itemsOf_eq_error hlist hnull] at hread
    obtain ⟨hlater, es, -, hresult⟩ := hfetches.last_of_ends rfl (hread ▸ trivial)
    rw [hread] at hresult
    exact ⟨hlater, hresult⟩

end Reading

def itemUsers : EntityService User := pairedUsers.withListField "items"

def replyPages (enveloped : Bool) : Script :=
  let users := Json.array [.object [("id", .ofUInt64 1)], .object [("id", .ofUInt64 2)]]
  if enveloped then
    ⟨[.ok (.object [("items", users), ("total", .ofUInt64 2)]), .ok (.object [("items", .null)])]⟩
  else ⟨[.ok users, .ok .null]⟩

def strayList : Json := .object [("data", .array [])]

theorem envelopes_make_no_difference_itemUsers :
    let listed (enveloped : Bool) :=
      run (replyPages enveloped).transport (itemUsers.getAll User.blank [] .all).run .fresh 0
    let imported (enveloped : Bool) :=
      run (replyPages enveloped).transport
        (itemUsers.importFile usersFile [("Mail", "email")]).run .fresh 0
    let stray := run (Script.mk [.ok strayList]).transport
      (itemUsers.importFile usersFile [("Mail", "email")]).run .fresh 0
    (listed true = listed false ∧
      ∃ es, itemUsers.Gathers ((replyPages false).replies.take 1) (.ok es) ∧
        (listed true).result = .ok es) ∧
    (imported true = imported false ∧ (requestsOf (imported true).log).length = 1) ∧
    stray.result = .error (.decode (.notAList (Entity.name User) strayList)) := by
  intro listed imported stray
  have halike : AnswersLike itemUsers.SameInside (replyPages false).transport
      (replyPages true).transport :=
    answersLike_script .failed (.cons (.carrying (.bare fun _ _ => rfl) (.enveloped rfl rfl))
      (.cons (.carrying (.bare fun _ _ => rfl) (.enveloped rfl rfl)) .nil))
  refine ⟨?_, ?_, ?_⟩
  · obtain ⟨hsame, hlast⟩ := envelopes_make_no_difference itemUsers
      (.getAll User.blank [] .all) halike .fresh 0
    have hanswers : answers (replyPages false).transport (requestsOf (listed false).log) 0 =
        (replyPages false).replies.take 1 ++ [.ok .null] := by
      have hlength : (requestsOf (listed false).log).length = 2 := by decide +kernel
      obtain ⟨first, second, htwo⟩ := List.length_eq_two.1 hlength
      rw [htwo]
      rfl
    obtain ⟨-, hnothing⟩ := hlast _ _ _ hanswers
    obtain ⟨-, es, hgathers, hresult⟩ := (hnothing .null (.bare fun _ _ => rfl)).1 rfl
    exact ⟨hsame, es, hgathers, (congrArg Run.result hsame).trans hresult⟩
  · have hsame := (envelopes_make_no_difference itemUsers
      (.importFile usersFile [("Mail", "email")]) halike .fresh 0).1
    exact ⟨hsame, by decide +kernel⟩
  · have hbare : itemUsers.Carries strayList strayList := by
      refine .bare fun field hfield => ?_
      obtain rfl := Option.some.inj hfield
      rfl
    have hown : AnswersLike itemUsers.SameInside (Script.mk [.ok strayList]).transport
        (Script.mk [.ok strayList]).transport :=
      answersLike_script .failed (.cons (.carrying hbare hbare) .nil)
    obtain ⟨-, hlast⟩ := envelopes_make_no_difference itemUsers
      (.importFile usersFile [("Mail", "email")]) hown .fresh 0
    have hanswers : answers (Script.mk [.ok strayList]).transport (requestsOf stray.log) 0 =
        [] ++ [.ok strayList] := by
      have hlength : (requestsOf stray.log).length = 1 := by decide +kernel
      obtain ⟨only, hone⟩ := List.length_eq_one_iff.1 hlength
      rw [hone]
      rfl
    obtain ⟨-, hnothing⟩ := hlast _ _ _ hanswers
    exact ((hnothing strayList hbare).2 nofun nofun).2

end EntityService

end MerchantApi
