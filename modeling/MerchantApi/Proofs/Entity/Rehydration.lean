import MerchantApi.Proofs.Entity.Faults
import MerchantApi.Proofs.Entity.Written
/-!
# Patches

A patch replaces the fields that it gives and leaves the others as they are.  It
is refused as the same record is refused by itself, and two patches in a row
come to the one patch in which the members of the second replace those of the
first.  All this holds of entities that are read back from what they write.
-/

namespace MerchantApi

namespace Json

def givenMembers : Json → Members Json
  | .object members => members.filter fun member => !member.2.isNull
  | _ => []

/-- The one patch in which what a second gives replaces what a first gives. -/
def override (first second : Json) : Json := .object (first.givenMembers ++ second.givenMembers)

private theorem given?_eq (raw : Json) (name : String) :
    raw.given? name = Members.get? raw.givenMembers.reverse name := by
  cases raw <;> rfl

private theorem given?_override (first second : Json) (name : String) :
    (first.override second).given? name = (second.given? name).or (first.given? name) := by
  have hkept : ∀ raw : Json, (raw.givenMembers.filter fun member => !member.2.isNull) =
      raw.givenMembers := by
    intro raw
    cases raw with
    | object members => simp [givenMembers]
    | _ => rfl
  rw [override, given?, List.filter_append, hkept, hkept, List.reverse_append,
    Members.get?_append, given?_eq, given?_eq]

end Json

namespace Entity

variable {E : Type} [Entity E] {p q both : Json} {given : Members Json} {e next : E}
  {field : Field E}

theorem rehydrate_eq_hydrate (hgiven : rawMembers (name E) p = .ok given) (e : E) :
    rehydrate e p = hydrate (.object (merge (record e) given)) := by
  rw [rehydrate, hgiven]
  rfl

/-- What is no record is refused by its kind alone. -/
theorem rehydrate_of_not_isRecord (h : ¬ p.IsRecord) (e : E) : rehydrate e p = hydrate p := by
  cases hraw : rawMembers (name E) p with
  | ok given => exact absurd ((isRecord_iff (name E)).2 ⟨given, hraw⟩) h
  | error cause =>
    rw [rehydrate, hydrate, normalMembers, hraw]
    rfl

/-- Whether every field is read back from what an entity writes. -/
def Steady (e : E) : Prop := ∀ field ∈ fields (E := E), field.Takes (field.write e) e

variable [Lawful E]

theorem rawValue_merge (hgiven : rawMembers (name E) p = .ok given) (e : E)
    (hfield : field ∈ fields (E := E)) :
    rawValue (.object (merge (record e) given)) field =
      (p.given? field.name).getD (field.write e) := by
  have hsorted : (merge (record e) given).Sorted := (sorted_record e).overlay _
  have hvalue : (Json.object (merge (record e) given)).given? field.name =
      ((p.given? field.name).or (some (field.write e))).filter fun j => !j.isNull := by
    rw [Json.given?, (hsorted.filter _).get?_reverse, hsorted.get?_filter, get?_merge hgiven,
      get?_record e hfield]
  rw [rawValue, hvalue]
  cases hp : p.given? field.name with
  | some j =>
    have hj : j.isNull = false :=
      Bool.eq_false_iff.2 fun hnull => Json.ne_null_of_given hp (Json.eq_null_of_isNull hnull)
    simp [Option.filter_some, hj]
  | none =>
    cases hnull : (field.write e).isNull with
    | false => simp [Option.filter_some, hnull]
    | true =>
      -- Only dates write null, and the blank entity, which fills the gap, has none.
      have hwrite := Json.eq_null_of_isNull hnull
      have hdate : field.name ∈ dates E :=
        (normalForm_record e).null_date field.name (hwrite ▸ get?_record e hfield)
      have hblank := Lawful.blank_dates field.name hdate
      rw [get?_record blank hfield] at hblank
      simp [Option.filter_some, Json.isNull, hwrite, Option.some.inj hblank]

variable [Distinct E] [Separate E]

theorem steady_of_hydrate_json (h : hydrate (json e) = .ok e) : Steady e := by
  intro field hfield
  have htakes : field.Takes (rawValue (json e) field) e := (hydrate_eq_ok_iff.1 h).2 field hfield
  have hvalue : rawValue (json e) field = field.write e := rawValue_merge (p := .null) rfl e hfield
  rwa [hvalue] at htakes

theorem rehydrate_eq_ok_iff :
    rehydrate e p = .ok next ↔ p.IsRecord ∧ ∀ field ∈ fields (E := E),
      field.Takes ((p.given? field.name).getD (field.write e)) next := by
  by_cases hp : p.IsRecord
  · obtain ⟨given, hgiven⟩ := (isRecord_iff (name E)).1 hp
    rw [rehydrate_eq_hydrate hgiven, hydrate_eq_ok_iff]
    refine and_congr (iff_of_true (Or.inr ⟨_, rfl⟩) hp) (forall₂_congr fun field hfield => ?_)
    rw [rawValue_merge hgiven e hfield]
    rfl
  · rw [rehydrate_of_not_isRecord hp, hydrate_eq_ok_iff]
    exact iff_of_false (fun h => hp h.1) fun h => hp h.1

/-- A patch is refused as it is by itself. -/
theorem rehydrate_eq_error_iff (he : Steady e) (hblank : Steady (blank : E)) {cause : ApiError} :
    rehydrate e p = .error cause ↔ (hydrate p : Except ApiError E) = .error cause := by
  by_cases hp : p.IsRecord
  · obtain ⟨given, hgiven⟩ := (isRecord_iff (name E)).1 hp
    have hrecord : (Json.object (merge (record e) given)).IsRecord := Or.inr ⟨_, rfl⟩
    -- What the patch does not give comes from the entity on one side and from the
    -- blank one on the other, and is taken on both.
    have halike : Alike E (.object (merge (record e) given)) p := by
      intro field hfield
      rw [rawValue_merge hgiven e hfield, rawValue]
      cases p.given? field.name with
      | some j => exact Or.inl rfl
      | none => exact Or.inr ⟨⟨e, he field hfield⟩, blank, hblank field hfield⟩
    have hback : Alike E p (.object (merge (record e) given)) :=
      fun field hfield => (halike field hfield).imp Eq.symm And.symm
    rw [rehydrate_eq_hydrate hgiven]
    exact ⟨hydrate_eq_error_of_alike hrecord hp halike, hydrate_eq_error_of_alike hp hrecord hback⟩
  · rw [rehydrate_of_not_isRecord hp]

/-- A second patch comes to one patch in which its members replace those of the first. -/
theorem rehydrate_rehydrate (h : rehydrate e p = .ok next) (hnext : Steady next) (hq : q.IsRecord)
    (hboth : both.IsRecord)
    (hgiven : ∀ name, both.given? name = (q.given? name).or (p.given? name)) :
    rehydrate next q = rehydrate e both := by
  obtain ⟨later, hlater⟩ := (isRecord_iff (name E)).1 hq
  obtain ⟨all, hall⟩ := (isRecord_iff (name E)).1 hboth
  rw [rehydrate_eq_hydrate hlater, rehydrate_eq_hydrate hall]
  apply hydrate_congr (Or.inr ⟨_, rfl⟩) (Or.inr ⟨_, rfl⟩)
  intro field hfield
  have htakes := (rehydrate_eq_ok_iff.1 h).2 field hfield
  rw [rawValue_merge hlater next hfield, rawValue_merge hall e hfield, hgiven]
  cases q.given? field.name with
  | some j => exact Or.inl rfl
  | none => exact Or.inr ⟨next, hnext field hfield, htakes⟩

end Entity

namespace EntityKind

open Entity

variable {kind : EntityKind} {d : Declared kind.Carrier} {e next given : kind.Carrier} {p : Json}

private theorem exists_describes (hd : d ∈ kind.declared) :
    ∃ field ∈ fields (E := kind.Carrier), d.Describes field := by
  have hdescribed : (∀ field ∈ fields (E := kind.Carrier), True) ↔ ∀ d ∈ kind.declared,
      ∃ field ∈ fields (E := kind.Carrier), d.Describes field :=
    Declared.forall_mem_iff_of_describes kind.describes fun d field hfield h =>
      iff_of_true trivial ⟨field, hfield, h⟩
  exact hdescribed.1 (fun _ _ => trivial) d hd

theorem steady_of_hasPlainYear (he : ∀ t ∈ kind.instants e, t.HasPlainYear) : Steady e :=
  steady_of_hydrate_json (kind.hydrate_json_of_hasPlainYear he)

theorem steady_blank (kind : EntityKind) : Steady (blank : kind.Carrier) := by
  apply steady_of_hasPlainYear
  intro t ht
  cases kind <;> cases ht

theorem get_of_rehydrate (he : Steady e) (h : rehydrate e p = .ok next)
    (hgiven : hydrate p = .ok given) (hd : d ∈ kind.declared) :
    d.get next = if (p.given? d.name).isSome then d.get given else d.get e := by
  obtain ⟨field, hfield, hdescribes⟩ := exists_describes hd
  have hlens := (Separate.faithful field hfield).lens
  have hnext := (rehydrate_eq_ok_iff.1 h).2 field hfield
  have htaken : field.Takes (rawValue p field) given := (hydrate_eq_ok_iff.1 hgiven).2 field hfield
  rw [rawValue, hdescribes.name] at htaken
  rw [hdescribes.name] at hnext
  have hsame : ∀ x y : kind.Carrier, field.write x = field.write y → d.get x = d.get y :=
    fun x y => (write_eq_iff hd hfield hdescribes.name).1
  cases hp : p.given? d.name with
  | some j =>
    rw [hp] at hnext htaken
    exact hsame next given (hnext.write_eq hlens htaken)
  | none =>
    rw [hp] at hnext
    exact hsame next e (hnext.write_eq hlens (he field hfield))

theorem denotes_of_rehydrate (h : rehydrate e p = .ok next) (hd : d ∈ kind.declared) {j : Json}
    (hj : p.given? d.name = some j) : d.type.Denotes j (d.get next) := by
  obtain ⟨field, hfield, hdescribes⟩ := exists_describes hd
  have hnext := (rehydrate_eq_ok_iff.1 h).2 field hfield
  rw [hdescribes.name, hj] at hnext
  exact (hdescribes.given j (Json.ne_null_of_given hj) next).1 hnext

theorem rehydrate_eq_ok_iff_get (he : Steady e) :
    rehydrate e p = .ok next ↔ ∃ given : kind.Carrier, hydrate p = .ok given ∧
      ∀ d ∈ kind.declared,
        d.get next = if (p.given? d.name).isSome then d.get given else d.get e := by
  constructor
  · intro h
    cases hhydrate : (hydrate p : Except ApiError kind.Carrier) with
    | ok given => exact ⟨given, rfl, fun d hd => get_of_rehydrate he h hhydrate hd⟩
    | error cause =>
      rw [(rehydrate_eq_error_iff he kind.steady_blank).2 hhydrate] at h
      cases h
  · rintro ⟨given, hgiven, hget⟩
    cases hrehydrate : rehydrate e p with
    | ok other =>
      have hsame : other = next := eq_of_get_eq fun d hd =>
        (get_of_rehydrate he hrehydrate hgiven hd).trans (hget d hd).symm
      rw [hsame]
    | error cause =>
      rw [(rehydrate_eq_error_iff he kind.steady_blank).1 hrehydrate] at hgiven
      cases hgiven

/-- A patch is refused as the record of its own would be.  What it gives is what
it gives by itself, all else is kept, and two patches in a row are one. -/
theorem rehydrate_merges (kind : EntityKind) (e : kind.Carrier)
    (he : ∀ t ∈ kind.instants e, t.HasPlainYear) (p : Json) :
    (∀ cause, rehydrate e p = .error cause ↔
      (hydrate p : Except ApiError kind.Carrier) = .error cause) ∧
    (∀ next, rehydrate e p = .ok next ↔ ∃ given : kind.Carrier, hydrate p = .ok given ∧
      ∀ d ∈ kind.declared,
        d.get next = if (p.given? d.name).isSome then d.get given else d.get e) ∧
    ∀ next, rehydrate e p = .ok next →
      (∀ d ∈ kind.declared, ∀ j, p.given? d.name = some j → d.type.Denotes j (d.get next)) ∧
      ((∀ t ∈ kind.instants next, t.HasPlainYear) → ∀ q : Json, q.IsRecord →
        rehydrate next q = rehydrate e (p.override q)) := by
  have hsteady : Steady e := steady_of_hasPlainYear he
  refine ⟨fun cause => rehydrate_eq_error_iff hsteady kind.steady_blank,
    fun next => rehydrate_eq_ok_iff_get hsteady, fun next h => ⟨?_, ?_⟩⟩
  · exact fun d hd j hj => denotes_of_rehydrate h hd hj
  · intro hnext q hq
    exact rehydrate_rehydrate h (steady_of_hasPlainYear hnext) hq (Or.inr ⟨_, rfl⟩)
      (Json.given?_override p q)

def datedMerchant : Merchant :=
  { Merchant.blank with
    title := "Mart"
    validTime := "day"
    created := some ⟨1483228801, 250000000, by decide, by decide, by decide, by decide⟩
    owner := { User.blank with
      id := 7
      name := "Ann"
      updated := some ⟨86399, 500000000, by decide, by decide, by decide, by decide⟩ } }

def ownerPatch : Json :=
  .object [("created", .bool false), ("owner", .object [("id", .ofUInt64 9)]), ("title", .null),
    ("valid_time", .string "night")]

def titlePatch : Json := .object [("owner", .null), ("title", .string "Cafe")]

def patchedMerchant : Merchant :=
  { datedMerchant with
    created := none
    validTime := "night"
    owner := { User.blank with id := 9 } }

theorem rehydrate_datedMerchant :
    rehydrate datedMerchant ownerPatch = .ok patchedMerchant ∧
      rehydrate patchedMerchant titlePatch =
        rehydrate datedMerchant (ownerPatch.override titlePatch) ∧
      rehydrate patchedMerchant titlePatch = .ok { patchedMerchant with title := "Cafe" } := by
  have hdates : ∀ t ∈ Merchant.instants datedMerchant, t.HasPlainYear := by decide +kernel
  have hcleared : ∀ t ∈ Merchant.instants patchedMerchant, t.HasPlainYear := by decide
  have hpatched : rehydrate datedMerchant ownerPatch = .ok patchedMerchant := by rfl
  obtain ⟨-, -, hmerges⟩ := rehydrate_merges .merchant datedMerchant hdates ownerPatch
  exact ⟨hpatched, (hmerges patchedMerchant hpatched).2 hcleared titlePatch (Or.inr ⟨_, rfl⟩),
    by rfl⟩

end EntityKind

end MerchantApi
