import MerchantApi.Proofs.Entity.Hydration
import MerchantApi.Proofs.Entity.Stability
/-!
# Undeclared members

A raw record may have members that no field declares, and so may its owner.
Normal forms carry them along, and entities are read without them.  So nothing
changes when they are left out beforehand, and what is left of a normal form
without them is the JSON form of the entity that is read from it.
-/

namespace MerchantApi

namespace Entity

variable {E : Type} [Entity E] {inner : String → Json → Json} {members : Members Json}

def declares (E : Type) [Entity E] (name : String) : Bool :=
  Members.has (record (blank : E)) name

/-- The declared members, with their values changed by a rule for each name. -/
def trimMembers (E : Type) [Entity E] (inner : String → Json → Json) (members : Members Json) :
    Members Json :=
  (members.filter fun member => declares E member.1).map fun member =>
    (member.1, inner member.1 member.2)

def trim (E : Type) [Entity E] (inner : String → Json → Json) : Json → Json
  | .object members => .object (trimMembers E inner members)
  | j => j

theorem get?_trimMembers (members : Members Json) (name : String) :
    Members.get? (trimMembers E inner members) name =
      if declares E name then (Members.get? members name).map (inner name) else none := by
  rw [trimMembers, Members.get?_map, Members.get?_filter_name (declares E)]
  by_cases hdeclared : declares E name = true
  · rw [if_pos hdeclared, if_pos hdeclared]
  · rw [if_neg hdeclared, if_neg hdeclared, Option.map_none]

theorem sorted_trimMembers (h : members.Sorted) : (trimMembers E inner members).Sorted := by
  rw [trimMembers, Members.Sorted, List.pairwise_map]
  exact h.filter _

private theorem trimMembers_reverse (members : Members Json) :
    trimMembers E inner members.reverse = (trimMembers E inner members).reverse := by
  simp [trimMembers, List.filter_reverse, List.map_reverse]

private theorem declares_field [Lawful E] {field : Field E} (hfield : field ∈ fields (E := E)) :
    declares E field.name = true := by
  rw [declares, Members.has, get?_record blank hfield]
  rfl

private theorem get?_record_of_not_declares [Lawful E] {name : String}
    (h : ¬ declares E name = true) (e : E) : Members.get? (record e) name = none := by
  rw [Option.eq_none_iff_forall_ne_some]
  intro value hvalue
  obtain ⟨field, hfield, rfl, -⟩ := field_of_get?_record hvalue
  exact h (declares_field hfield)

/-- A rule for the values of members that hydration does not notice. -/
structure Unnoticed (E : Type) [Entity E] (inner : String → Json → Json) : Prop where
  isNull : ∀ name j, (inner name j).isNull = j.isNull
  blank : ∀ name j, Members.get? (record (Entity.blank : E)) name = some j → inner name j = j
  plain : ∀ name, (∀ relation ∈ relations E, relation.field ≠ name) → ∀ j, inner name j = j
  revision : ∀ r ∈ revisions E, ∀ j, r.2 (inner r.1 j) = (r.2 j).map (inner r.1)
  read : ∀ field ∈ fields (E := E), ∀ j e, field.read (inner field.name j) e = field.read j e

theorem unnoticed_id : Unnoticed E fun _ j => j where
  isNull _ _ := rfl
  blank _ _ _ := rfl
  plain _ _ _ := rfl
  revision r _ j := by cases r.2 j <;> rfl
  read _ _ _ _ := rfl

namespace Unnoticed

private theorem inner_null (h : Unnoticed E inner) (name : String) : inner name .null = .null :=
  Json.eq_null_of_isNull (h.isNull name .null)

variable [Lawful E]

theorem merge_trimMembers (h : Unnoticed E inner) (given : Members Json) :
    merge (record (Entity.blank : E)) (trimMembers E inner given) =
      trimMembers E inner (merge (record (Entity.blank : E)) given) := by
  have hsorted : ∀ given, (merge (record (Entity.blank : E)) given).Sorted :=
    fun given => (sorted_record _).overlay _
  have hfilter : (trimMembers E inner given).filter (fun member => !member.2.isNull) =
      trimMembers E inner (given.filter fun member => !member.2.isNull) := by
    simp only [trimMembers, List.filter_map, List.filter_filter, Function.comp_def, h.isNull,
      Bool.and_comm]
  apply (hsorted _).ext (sorted_trimMembers (hsorted given))
  intro name
  rw [get?_trimMembers, merge, merge, Members.get?_overlay, Members.get?_overlay, hfilter,
    ← trimMembers_reverse, get?_trimMembers]
  by_cases hdeclared : declares E name = true
  · rw [if_pos hdeclared, if_pos hdeclared, Option.map_or]
    congr 1
    cases hblank : Members.get? (record (Entity.blank : E)) name with
    | none => rfl
    | some j => rw [Option.map_some, h.blank name j hblank]
  · rw [if_neg hdeclared, if_neg hdeclared, get?_record_of_not_declares hdeclared]
    rfl

theorem revise_trimMembers [Distinct E] (h : Unnoticed E inner) (hsorted : members.Sorted)
    {r : Revision} (hr : r ∈ revisions E) :
    revise (trimMembers E inner members) r =
      (revise members r).map (trimMembers E inner) := by
  obtain ⟨field, hfield, hname⟩ := Distinct.declared r hr
  have hdeclared : declares E r.1 = true := hname ▸ declares_field hfield
  have hvalue : (Members.get? (trimMembers E inner members) r.1).getD .null =
      inner r.1 ((Members.get? members r.1).getD .null) := by
    rw [get?_trimMembers, if_pos hdeclared]
    cases Members.get? members r.1 with
    | none => exact (h.inner_null r.1).symm
    | some j => rfl
  rw [revise, revise, hvalue, h.revision r hr]
  cases r.2 ((Members.get? members r.1).getD .null) with
  | error cause => rfl
  | ok j =>
    refine congrArg Except.ok (Members.Sorted.ext ?_ ?_ fun name => ?_)
    · exact (sorted_trimMembers hsorted).insert _ _
    · exact sorted_trimMembers (hsorted.insert _ _)
    · rw [Members.get?_insert, get?_trimMembers, get?_trimMembers, Members.get?_insert]
      by_cases heq : r.1 = name
      · subst heq
        simp [hdeclared]
      · simp [heq]

/-- The normal form of what is declared is what is declared of the normal form. -/
theorem normalMembers_trim [Distinct E] (h : Unnoticed E inner) (raw : Json) :
    normalMembers E (trim E inner raw) = (normalMembers E raw).map (trimMembers E inner) := by
  have hraw : rawMembers (name E) (trim E inner raw) =
      (rawMembers (name E) raw).map (trimMembers E inner) := by
    cases raw <;> rfl
  rw [normalMembers_eq, normalMembers_eq, hraw]
  cases rawMembers (name E) raw with
  | error cause => rfl
  | ok given =>
    change (revisions E).foldlM revise (merge _ (trimMembers E inner given)) =
      ((revisions E).foldlM revise (merge _ given)).map _
    rw [h.merge_trimMembers]
    apply Outcome.foldlM_map_comm Members.Sorted
    · exact fun record hrecord r hr => h.revise_trimMembers hrecord hr
    · intro record hrecord r _ next hnext
      obtain ⟨j, -, rfl⟩ := Outcome.map_eq_ok_iff.1 hnext
      exact hrecord.insert _ _
    · exact (sorted_record _).overlay _

theorem ofRecord_trimMembers (h : Unnoticed E inner) (members : Members Json) :
    (ofRecord (trimMembers E inner members) : Except Json.Mismatch E) = ofRecord members := by
  refine Outcome.foldlM_congr (fun e field hfield => ?_) Entity.blank
  rw [get?_trimMembers, if_pos (declares_field hfield)]
  cases Members.get? members field.name with
  | none => rfl
  | some j => exact h.read field hfield j e

/-- Hydration does not notice whether undeclared members are there. -/
theorem hydrate_trim [Distinct E] (h : Unnoticed E inner) (raw : Json) :
    (hydrate (trim E inner raw) : Except ApiError E) = hydrate raw := by
  rw [hydrate, hydrate, h.normalMembers_trim]
  cases normalMembers E raw with
  | error cause => rfl
  | ok members =>
    change (ofRecord (trimMembers E inner members)).mapError _ = (ofRecord members).mapError _
    rw [h.ofRecord_trimMembers]

/-- What is declared of a normal form is the record of the entity read from it,
if that is so for the values of its relations. -/
theorem trimMembers_eq_record [Separate E] (h : Unnoticed E inner) {raw : Json}
    (hmembers : normalMembers E raw = .ok members) {e : E} (he : ofRecord members = .ok e)
    (hrelations : ∀ field ∈ fields (E := E), ∀ relation ∈ relations E,
      relation.field = field.name → ∀ j, Members.get? members field.name = some j →
        field.read j e = .ok e → field.write e = inner field.name j) :
    trimMembers E inner members = record e := by
  obtain ⟨hform, -⟩ := normalForm_of_normalMembers hmembers
  apply (sorted_trimMembers hform.sorted).ext (sorted_record e)
  intro name
  rw [get?_trimMembers]
  by_cases hdeclared : declares E name = true
  · obtain ⟨value, hvalue⟩ := Option.isSome_iff_exists.1 hdeclared
    obtain ⟨field, hfield, rfl, -⟩ := field_of_get?_record hvalue
    obtain ⟨j, hj, hread⟩ := ofRecord_eq_ok_iff.1 he field hfield
    rw [if_pos hdeclared, hj, get?_record e hfield, Option.map_some, Option.some.injEq]
    by_cases hrelation : ∃ relation ∈ relations E, relation.field = field.name
    · obtain ⟨relation, hmem, hname⟩ := hrelation
      exact (hrelations field hfield relation hmem hname j hj hread).symm
    · have hplain : ∀ relation ∈ relations E, relation.field ≠ field.name :=
        fun relation hmem hname => hrelation ⟨relation, hmem, hname⟩
      rw [h.plain _ hplain]
      refine ((Separate.faithful field hfield).copies j e ⟨hplain, fun hdate => ?_⟩ hread).symm
      obtain ⟨t, ht⟩ := hform.dated field.name hdate
      exact ⟨t, Option.some.inj (hj.symm.trans ht)⟩
  · rw [if_neg hdeclared, get?_record_of_not_declares hdeclared]

end Unnoticed

theorem trim_json [Lawful E]
    (hrecord : ∀ e : E, ∀ name j, Members.get? (record e) name = some j → inner name j = j)
    (e : E) : trim E inner (json e) = json e := by
  have hmembers : trimMembers E inner (record e) = record e := by
    apply (sorted_trimMembers (sorted_record e)).ext (sorted_record e)
    intro name
    rw [get?_trimMembers]
    by_cases hdeclared : declares E name = true
    · rw [if_pos hdeclared]
      cases hj : Members.get? (record e) name with
      | none => rfl
      | some j => rw [Option.map_some, hrecord e name j hj]
    · rw [if_neg hdeclared, get?_record_of_not_declares hdeclared]
  rw [json, trim, hmembers]

theorem normalize_of_normalMembers {raw : Json} (h : normalMembers E raw = .ok members) :
    normalize E raw = .ok (.object members) := by
  rw [normalize, h]
  rfl

theorem normalize_trim [Lawful E] [Distinct E] (h : Unnoticed E inner) (raw : Json) :
    normalize E (trim E inner raw) = (normalize E raw).map (trim E inner) := by
  rw [normalize, normalize, h.normalMembers_trim]
  cases normalMembers E raw <;> rfl

end Entity

/-! ## Users, merchants and mappings -/

namespace EntityKind

open Entity

instance : (kind : EntityKind) → Distinct kind.Carrier
  | .user => inferInstanceAs (Distinct User)
  | .merchant => inferInstanceAs (Distinct Merchant)
  | .mapping => inferInstanceAs (Distinct Mapping)

instance : (kind : EntityKind) → Separate kind.Carrier
  | .user => inferInstanceAs (Separate User)
  | .merchant => inferInstanceAs (Separate Merchant)
  | .mapping => inferInstanceAs (Separate Mapping)

/-- What is left of a member: of an owner, the declared members of a user. -/
def trimMember : EntityKind → String → Json → Json
  | .user, _, j => j
  | .merchant, name, j => if name = "owner" then Entity.trim User (fun _ j => j) j else j
  | .mapping, _, j => j

def trim (kind : EntityKind) : Json → Json :=
  Entity.trim kind.Carrier kind.trimMember

private theorem trimMember_merchant_of_ne {name : String} (h : name ≠ "owner") :
    EntityKind.merchant.trimMember name = fun j => j := by
  funext j
  rw [trimMember, if_neg h]

theorem unnoticed_merchant : Unnoticed Merchant EntityKind.merchant.trimMember where
  isNull name j := by
    by_cases hname : name = "owner"
    · subst hname
      cases j <;> rfl
    · rw [trimMember_merchant_of_ne hname]
  blank name j hj := by
    by_cases hname : name = "owner"
    · subst hname
      obtain rfl : json User.blank = j := Option.some.inj hj
      exact trim_json (fun _ _ _ _ => rfl) User.blank
    · rw [trimMember_merchant_of_ne hname]
  plain name hname j := by
    have hne : name ≠ "owner" := (hname (.to User "owner") List.mem_cons_self).symm
    rw [trimMember_merchant_of_ne hne]
  revision := by
    have hdate : ∀ name ∈ dates Merchant, ∀ j,
        normalDate (Entity.name Merchant) name (EntityKind.merchant.trimMember name j) =
          (normalDate (Entity.name Merchant) name j).map
            (EntityKind.merchant.trimMember name) := by
      intro name hname j
      have hne : name ≠ "owner" := by
        rintro rfl
        exact absurd hname (by decide)
      rw [trimMember_merchant_of_ne hne]
      cases normalDate (Entity.name Merchant) name j <;> rfl
    intro r hr j
    rcases List.mem_append.1 hr with hr | hr
    · obtain ⟨name, hname, rfl⟩ := List.mem_map.1 hr
      exact hdate name hname j
    · obtain ⟨relation, hrelation, rfl⟩ := List.mem_map.1 hr
      obtain rfl := List.mem_singleton.1 hrelation
      exact normalize_trim unnoticed_id j
  read := by
    have howner : ∀ j (m : Merchant),
        (Field.entity "owner" Merchant.owner fun m v => { m with owner := v }).read
          (Entity.trim User (fun _ j => j) j) m =
        (Field.entity "owner" Merchant.owner fun m v => { m with owner := v }).read j m := by
      intro j m
      cases j with
      | object members =>
        rw [Field.read_entity, Field.read_entity]
        exact congrArg _ (unnoticed_id.ofRecord_trimMembers members)
      | _ => rfl
    simp only [fields, Merchant.fields, List.forall_mem_cons, List.not_mem_nil,
      IsEmpty.forall_iff, implies_true, and_true]
    and_intros
    all_goals first
      | exact fun _ _ => rfl
      | exact howner

theorem unnoticed_trimMember : (kind : EntityKind) → Unnoticed kind.Carrier kind.trimMember
  | .user => unnoticed_id (E := User)
  | .merchant => unnoticed_merchant
  | .mapping => unnoticed_id (E := Mapping)

theorem hydrate_trim (kind : EntityKind) (raw : Json) :
    (hydrate (kind.trim raw) : Except ApiError kind.Carrier) = hydrate raw :=
  kind.unnoticed_trimMember.hydrate_trim raw

theorem trimMembers_user {raw : Json} {members : Members Json}
    (hmembers : normalMembers User raw = .ok members) {u : User} (hu : ofRecord members = .ok u) :
    trimMembers User (fun _ j => j) members = record u :=
  unnoticed_id.trimMembers_eq_record hmembers hu fun _ _ _ h => absurd h List.not_mem_nil

theorem trimMembers_merchant {raw : Json} {members : Members Json}
    (hmembers : normalMembers Merchant raw = .ok members) {m : Merchant}
    (hm : ofRecord members = .ok m) :
    trimMembers Merchant EntityKind.merchant.trimMember members = record m := by
  obtain ⟨-, hrelations⟩ := Entity.normalForm_of_normalMembers hmembers
  obtain ⟨raw, value, hvalue, howner⟩ := hrelations (.to User "owner") List.mem_cons_self
  have hnormalize : normalize User raw = .ok value := hvalue
  obtain ⟨owner, rfl, hnormal⟩ := exists_normalMembers hnormalize
  have hdeclared : Field.entity "owner" Merchant.owner (fun m v => { m with owner := v }) ∈
      fields (E := Merchant) := List.mem_of_getElem? (i := 7) rfl
  have hread : (ofRecord owner : Except Json.Mismatch User) = .ok m.owner := by
    obtain ⟨j, hj, hread⟩ := ofRecord_eq_ok_iff.1 hm _ hdeclared
    obtain rfl : .object owner = j := Option.some.inj (howner.symm.trans hj)
    exact (Field.lens_entity "owner" ⟨fun _ _ => rfl, fun _ => rfl⟩).read_eq_self_iff.1 hread
  have hjson : json m.owner = Entity.trim User (fun _ j => j) (.object owner) := by
    rw [json, Entity.trim, trimMembers_user hnormal hread]
  refine unnoticed_merchant.trimMembers_eq_record hmembers hm ?_
  intro field hfield relation hrelation hname j hj _
  obtain rfl := List.mem_singleton.1 hrelation
  have hwrite : some (field.write m) = some (json m.owner) := by
    rw [← get?_record m hfield, ← hname]
    rfl
  rw [← hname] at hj ⊢
  obtain rfl : .object owner = j := Option.some.inj (howner.symm.trans hj)
  exact (Option.some.inj hwrite).trans hjson

/-- The JSON form of a hydrated entity is the normal form of its raw record
without the undeclared members. -/
theorem json_eq_trim (kind : EntityKind) {raw : Json} {e : kind.Carrier}
    (h : hydrate raw = .ok e) :
    ∃ value, normalize kind.Carrier raw = .ok value ∧ json e = kind.trim value := by
  obtain ⟨members, hmembers, he⟩ := hydrate_eq_ok_iff_normalMembers.1 h
  refine ⟨.object members, normalize_of_normalMembers hmembers, ?_⟩
  refine congrArg Json.object (Eq.symm ?_)
  cases kind with
  | user => exact trimMembers_user hmembers he
  | merchant => exact trimMembers_merchant hmembers he
  | mapping =>
    exact (unnoticed_id (E := Mapping)).trimMembers_eq_record hmembers he
      fun _ _ _ h => absurd h List.not_mem_nil

def strayRecord : Json :=
  .object [("created", (lateRecord.member? "created").getD .null),
    ("owner", .object [("created", .string "2017-01-01T01:59:60.25+02:00"),
      ("id", .ofUInt64 7), ("role", .string "admin"), ("updated", .string "")]),
    ("rating", .array [.null]), ("title", .string "Mart")]

def strayMerchant : Merchant :=
  { Merchant.blank with
    title := "Mart"
    created := lateUser.created
    owner := { User.blank with
      id := 7
      created := some ⟨1483228799, 1250000000, by decide, by decide, by decide, by decide⟩ } }

theorem json_strayMerchant :
    hydrate strayRecord = .ok strayMerchant ∧
      ∃ value, normalize Merchant strayRecord = .ok value ∧
        json strayMerchant = EntityKind.merchant.trim value :=
  have hhydrate : hydrate strayRecord = .ok strayMerchant := by rfl
  ⟨hhydrate, json_eq_trim .merchant hhydrate⟩

end EntityKind

end MerchantApi
