import MerchantApi.Proofs.Entity.Fields
import MerchantApi.Proofs.Entity.NormalForm
/-!
# Hydration field by field

Dates and relations are revised one after the other, each under its own name.
So the normal form of a record can be looked up member by member, and hydration
yields an entity exactly when every field of it has the value that is left of
the raw one, or of the blank one where none is given.
-/

namespace MerchantApi

/-- The value that a raw record gives under a name.  A null gives none, and of a
name that is repeated the last value counts. -/
def Json.given? : Json → String → Option Json
  | .object members, name =>
    Members.get? (members.filter fun member => !member.2.isNull).reverse name
  | _, _ => none

def Json.IsRecord (raw : Json) : Prop := raw = .null ∨ ∃ members, raw = .object members

theorem Json.ne_null_of_given {raw j : Json} {name : String} (h : raw.given? name = some j) :
    j ≠ .null := by
  unfold Json.given? at h
  split at h
  · have hmem := List.mem_reverse.1 (Members.mem_of_get? h)
    intro hnull
    have hkept := (List.mem_filter.1 hmem).2
    rw [hnull] at hkept
    exact Bool.false_ne_true hkept
  · cases h

namespace Entity

def revisions (E : Type) [Entity E] : List Revision :=
  (dates E).map (fun field => (field, normalDate (name E) field)) ++
    (relations E).map fun relation => (relation.field, relation.normalize)

def normalValue (E : Type) [Entity E] (field : String) (j : Json) : Except ApiError Json :=
  match (revisions E).find? fun r => r.1 = field with
  | some r => r.2 j
  | none => .ok j

variable {E : Type} [Entity E] {raw : Json}

theorem foldlM_normalizeDate_eq (entity : String) {names : List String}
    {members : Members Json} (h : ∀ name ∈ names, (Members.get? members name).isSome) :
    names.foldlM (normalizeDate entity) members =
      (names.map fun field => (field, normalDate entity field)).foldlM revise members := by
  induction names generalizing members with
  | nil => rfl
  | cons first names ih =>
    obtain ⟨hfirst, hrest⟩ := List.forall_mem_cons.1 h
    obtain ⟨value, hvalue⟩ := Option.isSome_iff_exists.1 hfirst
    have hstep : normalizeDate entity members first =
        revise members (first, normalDate entity first) := by
      simp only [normalizeDate, revise, hvalue, Option.getD_some]
    rw [List.map_cons, List.foldlM_cons, List.foldlM_cons, hstep]
    cases hrevise : revise members (first, normalDate entity first) with
    | error cause => rfl
    | ok after =>
      obtain ⟨j, -, rfl⟩ := Outcome.map_eq_ok_iff.1 hrevise
      apply ih
      intro name hname
      rw [Members.get?_insert]
      split
      · rfl
      · exact hrest name hname

theorem normalMembers_eq [Lawful E] (raw : Json) :
    normalMembers E raw = (do
      let given ← rawMembers (name E) raw
      (revisions E).foldlM revise (merge (record (blank : E)) given)) := by
  rw [normalMembers]
  refine congrArg _ (funext fun given => ?_)
  have hdates : ∀ name ∈ dates E,
      (Members.get? (merge (record (blank : E)) given) name).isSome :=
    fun _ hname => isSome_get?_date (completed_merge given) hname
  dsimp only
  rw [foldlM_normalizeDate_eq (name E) hdates, revisions, List.foldlM_append]
  refine congrArg _ (funext fun dated => ?_)
  rw [List.foldlM_map]
  rfl

theorem isRecord_iff (entity : String) :
    raw.IsRecord ↔ ∃ given, rawMembers entity raw = .ok given := by
  unfold Json.IsRecord rawMembers
  cases raw <;> simp

theorem get?_merge {given : Members Json} (hgiven : rawMembers (name E) raw = .ok given)
    (target : Members Json) (field : String) :
    Members.get? (merge target given) field =
      (raw.given? field).or (Members.get? target field) := by
  rw [merge, Members.get?_overlay]
  unfold rawMembers at hgiven
  split at hgiven
  · obtain rfl := Except.ok.inj hgiven
    rfl
  · obtain rfl := Except.ok.inj hgiven
    rfl
  · cases hgiven

/-- The names of dates and relations are distinct, and all of them are declared. -/
class Distinct (E : Type) [Entity E] : Prop where
  revisions : (revisions E).Pairwise fun r s => r.1 ≠ s.1
  declared : ∀ r ∈ Entity.revisions E, ∃ field ∈ fields (E := E), field.name = r.1

instance : Distinct User where
  revisions := by simp [revisions, dates, relations]
  declared := by simp [revisions, dates, relations, fields, User.fields, Field.instant]

instance : Distinct Mapping where
  revisions := by simp [revisions, dates, relations]
  declared := by simp [revisions, dates, relations, fields, Mapping.fields, Field.instant]

instance : Distinct Merchant where
  revisions := by simp [revisions, dates, relations, Relation.to]
  declared := by
    simp [revisions, dates, relations, Relation.to, fields, Merchant.fields, Field.instant,
      Field.entity]

theorem normalValue_of_ne {field : String} (h : ∀ r ∈ revisions E, r.1 ≠ field) (j : Json) :
    normalValue E field j = .ok j := by
  have hfind : (revisions E).find? (fun r => r.1 = field) = none := by simpa using h
  rw [normalValue, hfind]

theorem normalValue_of_mem [Distinct E] {r : Revision} (hr : r ∈ revisions E) (j : Json) :
    normalValue E r.1 j = r.2 j := by
  rw [normalValue, find?_of_mem Distinct.revisions hr]

theorem hydrate_eq_ok_iff_normalMembers {e : E} :
    hydrate raw = .ok e ↔ ∃ members, normalMembers E raw = .ok members ∧
      ofRecord members = .ok e := by
  rw [hydrate, Outcome.bind_eq_ok_iff]
  refine exists_congr fun members => and_congr_right fun _ => ?_
  cases (ofRecord members : Except Json.Mismatch E) with
  | error cause => exact ⟨nofun, nofun⟩
  | ok other => exact ⟨fun h => congrArg _ (Except.ok.inj h), fun h => congrArg _ (Except.ok.inj h)⟩

section Hydrate

variable [Lawful E]

def rawValue (raw : Json) (field : Field E) : Json :=
  (raw.given? field.name).getD (field.write blank)

theorem get?_merge_field {given : Members Json} (hgiven : rawMembers (name E) raw = .ok given)
    {field : Field E} (hfield : field ∈ fields (E := E)) :
    Members.get? (merge (record (blank : E)) given) field.name = some (rawValue raw field) := by
  rw [get?_merge hgiven, get?_record blank hfield, rawValue]
  cases raw.given? field.name <;> rfl

variable [Distinct E]

theorem get?_of_normalMembers {members : Members Json} (h : normalMembers E raw = .ok members)
    {field : Field E} (hfield : field ∈ fields (E := E)) :
    ∃ j, normalValue E field.name (rawValue raw field) = .ok j ∧
      Members.get? members field.name = some j := by
  rw [normalMembers_eq] at h
  obtain ⟨given, hgiven, hrevised⟩ := Outcome.bind_eq_ok_iff.1 h
  obtain ⟨hothers, hrevisions⟩ := get?_of_foldlM_revise Distinct.revisions hrevised
  have hvalue := get?_merge_field hgiven hfield
  by_cases hrevision : ∃ r ∈ revisions E, r.1 = field.name
  · obtain ⟨r, hr, hname⟩ := hrevision
    obtain ⟨j, hj, hget⟩ := hrevisions r hr
    rw [hname, hvalue, Option.getD_some] at hj
    exact ⟨j, by rw [← hname, normalValue_of_mem hr, hj], hname ▸ hget⟩
  · have hnone : ∀ r ∈ revisions E, r.1 ≠ field.name :=
      fun r hr hname => hrevision ⟨r, hr, hname⟩
    exact ⟨_, normalValue_of_ne hnone _, by rw [hothers _ hnone, hvalue]⟩

theorem exists_normalMembers_iff :
    (∃ members, normalMembers E raw = .ok members) ↔ raw.IsRecord ∧
      ∀ field ∈ fields (E := E), ∃ j,
        normalValue E field.name (rawValue raw field) = .ok j := by
  constructor
  · rintro ⟨members, h⟩
    constructor
    · obtain ⟨given, hgiven, -⟩ := Outcome.bind_eq_ok_iff.1 h
      exact (isRecord_iff (name E)).2 ⟨given, hgiven⟩
    · intro field hfield
      obtain ⟨j, hj, -⟩ := get?_of_normalMembers h hfield
      exact ⟨j, hj⟩
  · rintro ⟨hrecord, hvalues⟩
    obtain ⟨given, hgiven⟩ := (isRecord_iff (name E)).1 hrecord
    have hrevisions : ∀ r ∈ revisions E, ∃ j,
        r.2 ((Members.get? (merge (record (blank : E)) given) r.1).getD .null) = .ok j := by
      intro r hr
      obtain ⟨field, hfield, hname⟩ := Distinct.declared r hr
      obtain ⟨j, hj⟩ := hvalues field hfield
      rw [hname, normalValue_of_mem hr] at hj
      rw [← hname, get?_merge_field hgiven hfield]
      exact ⟨j, hj⟩
    obtain ⟨members, hmembers⟩ := exists_foldlM_revise Distinct.revisions hrevisions
    exact ⟨members, by rw [normalMembers_eq, hgiven]; exact hmembers⟩

variable [Separate E]

/-- Hydration yields an entity exactly when every field of it has what is left
of the value of the field in the raw record. -/
theorem hydrate_eq_ok_iff {e : E} :
    hydrate raw = .ok e ↔ raw.IsRecord ∧ ∀ field ∈ fields (E := E), ∃ j,
      normalValue E field.name (rawValue raw field) = .ok j ∧ field.read j e = .ok e := by
  rw [hydrate_eq_ok_iff_normalMembers]
  constructor
  · rintro ⟨members, hmembers, he⟩
    refine ⟨(exists_normalMembers_iff.1 ⟨members, hmembers⟩).1, fun field hfield => ?_⟩
    obtain ⟨j, hj, hget⟩ := get?_of_normalMembers hmembers hfield
    obtain ⟨k, hk, hread⟩ := ofRecord_eq_ok_iff.1 he field hfield
    obtain rfl : j = k := Option.some.inj (hget.symm.trans hk)
    exact ⟨j, hj, hread⟩
  · rintro ⟨hrecord, hfields⟩
    obtain ⟨members, hmembers⟩ := exists_normalMembers_iff.2 ⟨hrecord, fun field hfield =>
      (hfields field hfield).imp fun _ h => h.1⟩
    refine ⟨members, hmembers, ofRecord_eq_ok_iff.2 fun field hfield => ?_⟩
    obtain ⟨j, hj, hget⟩ := get?_of_normalMembers hmembers hfield
    obtain ⟨k, hk, hread⟩ := hfields field hfield
    obtain rfl : j = k := Except.ok.inj (hj.symm.trans hk)
    exact ⟨j, hget, hread⟩

theorem exists_hydrate_iff :
    (∃ e : E, hydrate raw = .ok e) ↔ raw.IsRecord ∧ ∀ field ∈ fields (E := E), ∃ j x,
      normalValue E field.name (rawValue raw field) = .ok j ∧ field.read j blank = .ok x := by
  constructor
  · rintro ⟨e, he⟩
    obtain ⟨hrecord, hfields⟩ := hydrate_eq_ok_iff.1 he
    refine ⟨hrecord, fun field hfield => ?_⟩
    obtain ⟨j, hj, hread⟩ := hfields field hfield
    obtain ⟨x, hx⟩ := (Separate.faithful field hfield).lens.exists_read hread blank
    exact ⟨j, x, hj, hx⟩
  · rintro ⟨hrecord, hfields⟩
    obtain ⟨members, hmembers⟩ := exists_normalMembers_iff.2 ⟨hrecord, fun field hfield =>
      (hfields field hfield).imp fun _ ⟨_, h, _⟩ => h⟩
    have hread : ∀ field ∈ fields (E := E), ∃ j x,
        Members.get? members field.name = some j ∧ field.read j blank = .ok x := by
      intro field hfield
      obtain ⟨j, hj, hget⟩ := get?_of_normalMembers hmembers hfield
      obtain ⟨k, x, hk, hx⟩ := hfields field hfield
      obtain rfl : j = k := Except.ok.inj (hj.symm.trans hk)
      exact ⟨j, x, hget, hx⟩
    obtain ⟨e, he⟩ := exists_ofRecord_iff.2 hread
    exact ⟨e, hydrate_eq_ok_iff_normalMembers.2 ⟨members, hmembers, he⟩⟩

end Hydrate

end Entity

end MerchantApi
