import MerchantApi.Proofs.Entity.Declared
/-!
# The language of raw records

What hydration accepts, and what it yields, in terms of the raw record alone.
All that it does not accept it refuses as data that cannot be decoded.
-/

namespace MerchantApi

open Entity

/-! ## Errors -/

/-- Whether an outcome is an error only because data is not what it should be. -/
def Decodes {α : Type} (x : Except ApiError α) : Prop :=
  ∀ cause, x = .error cause → ∃ reason, cause = .decode reason

section Decodes

variable {α β : Type}

theorem decodes_ok (a : α) : Decodes (.ok a) := nofun

theorem decodes_decode (reason : DecodeError) : Decodes (.error (.decode reason) : Except _ α) :=
  fun _ h => ⟨reason, (Except.error.inj h).symm⟩

theorem Decodes.bind {x : Except ApiError α} {f : α → Except ApiError β} (hx : Decodes x)
    (hf : ∀ a, Decodes (f a)) : Decodes (x >>= f) := by
  intro cause h
  rcases Outcome.bind_eq_error_iff.1 h with h | ⟨a, -, h⟩
  · exact hx cause h
  · exact hf a cause h

theorem Decodes.map {x : Except ApiError α} (hx : Decodes x) (f : α → β) : Decodes (x.map f) := by
  cases x with
  | ok a => exact decodes_ok (f a)
  | error e => exact fun cause h => hx cause (congrArg _ (Except.error.inj h))

theorem decodes_foldlM {f : β → α → Except ApiError β} {xs : List α}
    (h : ∀ x ∈ xs, ∀ b, Decodes (f b x)) (b : β) : Decodes (xs.foldlM f b) := by
  induction xs generalizing b with
  | nil => exact decodes_ok b
  | cons x xs ih =>
    rw [List.foldlM_cons]
    exact (h x List.mem_cons_self b).bind (ih fun y hy => h y (List.mem_cons_of_mem _ hy))

private theorem decodes_normalDate (entity field : String) (j : Json) :
    Decodes (normalDate entity field j) := by
  unfold normalDate
  split
  · split
    · exact decodes_ok _
    · exact decodes_decode _
  · exact decodes_ok _

variable {E : Type} [Entity E]

theorem decodes_normalMembers (h : ∀ relation ∈ relations E, ∀ j, Decodes (relation.normalize j))
    (raw : Json) : Decodes (normalMembers E raw) := by
  have hraw : Decodes (rawMembers (Entity.name E) raw) := by
    cases raw with
    | object members => exact decodes_ok members
    | null => exact decodes_ok []
    | _ => exact decodes_decode _
  have hdate : ∀ name ∈ dates E, ∀ members,
      Decodes (normalizeDate (Entity.name E) members name) := by
    intro name _ members
    unfold normalizeDate
    cases Members.get? members name with
    | none => exact decodes_ok members
    | some j => exact (decodes_normalDate _ name j).map _
  have hrelation : ∀ relation ∈ relations E, ∀ members,
      Decodes (normalizeRelation members relation) :=
    fun relation hmem members => (h relation hmem _).map _
  unfold normalMembers
  exact hraw.bind fun given =>
    (decodes_foldlM hdate _).bind fun dated => decodes_foldlM hrelation dated

theorem decodes_hydrate (h : ∀ relation ∈ relations E, ∀ j, Decodes (relation.normalize j))
    (raw : Json) : Decodes (hydrate raw : Except ApiError E) := by
  refine (decodes_normalMembers h raw).bind fun members => ?_
  cases (ofRecord members : Except Json.Mismatch E) with
  | ok e => exact decodes_ok e
  | error cause => exact decodes_decode _

end Decodes

/-! ## Users, merchants and mappings -/

namespace User

def declared : List (Declared User) :=
  [ ⟨"created", .date, User.created, none⟩,
    ⟨"email", .text, User.email, ""⟩,
    ⟨"id", .identifier, User.id, (0 : UInt64)⟩,
    ⟨"name", .text, User.name, ""⟩,
    ⟨"updated", .date, User.updated, none⟩,
    ⟨"username", .text, User.username, ""⟩ ]

end User

namespace Mapping

def declared : List (Declared Mapping) :=
  [ ⟨"created", .date, Mapping.created, none⟩,
    ⟨"display_text", .text, Mapping.displayText, ""⟩,
    ⟨"field_name", .text, Mapping.fieldName, ""⟩,
    ⟨"id", .identifier, Mapping.id, (0 : UInt64)⟩,
    ⟨"is_active", .flag, Mapping.isActive, true⟩,
    ⟨"label_id", .integer, Mapping.labelId, (0 : Int64)⟩,
    ⟨"placeholder", .text, Mapping.placeholder, ""⟩,
    ⟨"updated", .date, Mapping.updated, none⟩ ]

end Mapping

namespace Merchant

def declared : List (Declared Merchant) :=
  [ ⟨"business_address", .text, Merchant.businessAddress, ""⟩,
    ⟨"business_district", .text, Merchant.businessDistrict, ""⟩,
    ⟨"created", .date, Merchant.created, none⟩,
    ⟨"custom_filters", .text, Merchant.customFilters, ""⟩,
    ⟨"fixed_events", .text, Merchant.fixedEvents, ""⟩,
    ⟨"id", .identifier, Merchant.id, (0 : UInt64)⟩,
    ⟨"legal_representative", .text, Merchant.legalRepresentative, ""⟩,
    ⟨"owner", .user, Merchant.owner, User.blank⟩,
    ⟨"special_time_periods", .text, Merchant.specialTimePeriods, ""⟩,
    ⟨"terminal_type", .text, Merchant.terminalType, ""⟩,
    ⟨"title", .text, Merchant.title, ""⟩,
    ⟨"traffic_conditions", .text, Merchant.trafficConditions, ""⟩,
    ⟨"updated", .date, Merchant.updated, none⟩,
    ⟨"valid_time", .text, Merchant.validTime, ""⟩ ]

end Merchant

namespace Declared

theorem describes_user : List.Forall₂ Describes User.declared (fields (E := User)) := by
  have hplain : ∀ name ∉ dates User, ∀ r ∈ revisions User, r.1 ≠ name := by
    simp [dates, revisions, relations, eq_comm]
  refine .cons (describes_date ⟨fun _ _ => rfl, fun _ => rfl⟩ (by decide) rfl) ?_
  refine .cons (describes_text ⟨fun _ _ => rfl, fun _ => rfl⟩ (hplain _ (by decide)) rfl) ?_
  refine .cons (describes_identifier ⟨fun _ _ => rfl, fun _ => rfl⟩ (hplain _ (by decide)) rfl) ?_
  refine .cons (describes_text ⟨fun _ _ => rfl, fun _ => rfl⟩ (hplain _ (by decide)) rfl) ?_
  refine .cons (describes_date ⟨fun _ _ => rfl, fun _ => rfl⟩ (by decide) rfl) ?_
  exact .cons (describes_text ⟨fun _ _ => rfl, fun _ => rfl⟩ (hplain _ (by decide)) rfl) .nil

theorem describes_mapping :
    List.Forall₂ Describes Mapping.declared (fields (E := Mapping)) := by
  have hplain : ∀ name ∉ dates Mapping, ∀ r ∈ revisions Mapping, r.1 ≠ name := by
    simp [dates, revisions, relations, eq_comm]
  refine .cons (describes_date ⟨fun _ _ => rfl, fun _ => rfl⟩ (by decide) rfl) ?_
  refine .cons (describes_text ⟨fun _ _ => rfl, fun _ => rfl⟩ (hplain _ (by decide)) rfl) ?_
  refine .cons (describes_text ⟨fun _ _ => rfl, fun _ => rfl⟩ (hplain _ (by decide)) rfl) ?_
  refine .cons (describes_identifier ⟨fun _ _ => rfl, fun _ => rfl⟩ (hplain _ (by decide)) rfl) ?_
  refine .cons (describes_flag ⟨fun _ _ => rfl, fun _ => rfl⟩ (hplain _ (by decide)) rfl) ?_
  refine .cons (describes_integer ⟨fun _ _ => rfl, fun _ => rfl⟩ (hplain _ (by decide)) rfl) ?_
  refine .cons (describes_text ⟨fun _ _ => rfl, fun _ => rfl⟩ (hplain _ (by decide)) rfl) ?_
  exact .cons (describes_date ⟨fun _ _ => rfl, fun _ => rfl⟩ (by decide) rfl) .nil

theorem describes_merchant :
    List.Forall₂ Describes Merchant.declared (fields (E := Merchant)) := by
  have hplain : ∀ name ∉ "owner" :: dates Merchant, ∀ r ∈ revisions Merchant, r.1 ≠ name := by
    simp +contextual [dates, revisions, relations, Relation.to, eq_comm]
  refine .cons (describes_text ⟨fun _ _ => rfl, fun _ => rfl⟩ (hplain _ (by decide)) rfl) ?_
  refine .cons (describes_text ⟨fun _ _ => rfl, fun _ => rfl⟩ (hplain _ (by decide)) rfl) ?_
  refine .cons (describes_date ⟨fun _ _ => rfl, fun _ => rfl⟩ (by decide) rfl) ?_
  refine .cons (describes_text ⟨fun _ _ => rfl, fun _ => rfl⟩ (hplain _ (by decide)) rfl) ?_
  refine .cons (describes_text ⟨fun _ _ => rfl, fun _ => rfl⟩ (hplain _ (by decide)) rfl) ?_
  refine .cons (describes_identifier ⟨fun _ _ => rfl, fun _ => rfl⟩ (hplain _ (by decide)) rfl) ?_
  refine .cons (describes_text ⟨fun _ _ => rfl, fun _ => rfl⟩ (hplain _ (by decide)) rfl) ?_
  refine .cons (describes_owner ⟨fun _ _ => rfl, fun _ => rfl⟩ List.mem_cons_self rfl) ?_
  refine .cons (describes_text ⟨fun _ _ => rfl, fun _ => rfl⟩ (hplain _ (by decide)) rfl) ?_
  refine .cons (describes_text ⟨fun _ _ => rfl, fun _ => rfl⟩ (hplain _ (by decide)) rfl) ?_
  refine .cons (describes_text ⟨fun _ _ => rfl, fun _ => rfl⟩ (hplain _ (by decide)) rfl) ?_
  refine .cons (describes_text ⟨fun _ _ => rfl, fun _ => rfl⟩ (hplain _ (by decide)) rfl) ?_
  refine .cons (describes_date ⟨fun _ _ => rfl, fun _ => rfl⟩ (by decide) rfl) ?_
  exact .cons (describes_text ⟨fun _ _ => rfl, fun _ => rfl⟩ (hplain _ (by decide)) rfl) .nil

end Declared

namespace EntityKind

def declared : (kind : EntityKind) → List (Declared kind.Carrier)
  | .user => User.declared
  | .merchant => Merchant.declared
  | .mapping => Mapping.declared

def created : (kind : EntityKind) → kind.Carrier → Option Instant
  | .user => User.created
  | .merchant => Merchant.created
  | .mapping => Mapping.created

def updated : (kind : EntityKind) → kind.Carrier → Option Instant
  | .user => User.updated
  | .merchant => Merchant.updated
  | .mapping => Mapping.updated

/-- The raw records of a kind: null, or an object whose declared members have
their types where they are given. -/
def Accepts (kind : EntityKind) (raw : Json) : Prop :=
  raw.IsRecord ∧ ∀ d ∈ kind.declared, d.Accepts raw

theorem describes (kind : EntityKind) :
    List.Forall₂ Declared.Describes kind.declared (fields (E := kind.Carrier)) := by
  cases kind with
  | user => exact Declared.describes_user
  | merchant => exact Declared.describes_merchant
  | mapping => exact Declared.describes_mapping

theorem declared_created (kind : EntityKind) :
    ⟨"created", .date, kind.created, none⟩ ∈ kind.declared := by
  cases kind with
  | user => exact List.mem_of_getElem? (i := 0) rfl
  | merchant => exact List.mem_of_getElem? (i := 2) rfl
  | mapping => exact List.mem_of_getElem? (i := 0) rfl

theorem declared_updated (kind : EntityKind) :
    ⟨"updated", .date, kind.updated, none⟩ ∈ kind.declared := by
  cases kind with
  | user => exact List.mem_of_getElem? (i := 4) rfl
  | merchant => exact List.mem_of_getElem? (i := 12) rfl
  | mapping => exact List.mem_of_getElem? (i := 7) rfl

theorem decodes_hydrate (kind : EntityKind) (raw : Json) :
    Decodes (hydrate raw : Except ApiError kind.Carrier) := by
  have huser : ∀ j, Decodes (normalize User j) := fun j =>
    (decodes_normalMembers (E := User) (fun _ h => absurd h List.not_mem_nil) j).map _
  cases kind with
  | user => exact MerchantApi.decodes_hydrate (E := User) (fun _ h => absurd h List.not_mem_nil) raw
  | mapping =>
    exact MerchantApi.decodes_hydrate (E := Mapping) (fun _ h => absurd h List.not_mem_nil) raw
  | merchant =>
    refine MerchantApi.decodes_hydrate (E := Merchant) (fun relation hrelation j => ?_) raw
    obtain rfl := List.mem_singleton.1 hrelation
    exact huser j

/-- Hydration accepts the raw records of a kind and nothing else, and yields the
entity that has the values that are given, and the defaults of the others. -/
theorem hydrate_recordLanguage (kind : EntityKind) (raw : Json) :
    ((∃ e : kind.Carrier, hydrate raw = .ok e) ↔ kind.Accepts raw) ∧
    (∀ e : kind.Carrier, hydrate raw = .ok e ↔
      raw.IsRecord ∧ ∀ d ∈ kind.declared, d.Holds raw e) ∧
    (∀ e : kind.Carrier, hydrate raw = .ok e →
      (kind.created e = none ↔ ∀ j, raw.given? "created" = some j → j.Falsy) ∧
      (kind.updated e = none ↔ ∀ j, raw.given? "updated" = some j → j.Falsy)) ∧
    (hydrate (kind.trim raw) : Except ApiError kind.Carrier) = hydrate raw ∧
    (¬ kind.Accepts raw → ∃ reason,
      (hydrate raw : Except ApiError kind.Carrier) = .error (.decode reason)) := by
  have haccepts : (∃ e : kind.Carrier, hydrate raw = .ok e) ↔ kind.Accepts raw :=
    Declared.exists_hydrate_iff_accepts kind.describes
  have hholds : ∀ e : kind.Carrier, hydrate raw = .ok e ↔
      raw.IsRecord ∧ ∀ d ∈ kind.declared, d.Holds raw e :=
    fun e => Declared.hydrate_eq_ok_iff_holds kind.describes
  refine ⟨haccepts, hholds, fun e he => ?_, kind.hydrate_trim raw, fun hrefused => ?_⟩
  · obtain ⟨-, hfields⟩ := (hholds e).1 he
    exact ⟨(hfields _ kind.declared_created).eq_none_iff,
      (hfields _ kind.declared_updated).eq_none_iff⟩
  · cases hraw : (hydrate raw : Except ApiError kind.Carrier) with
    | ok e => exact absurd (haccepts.1 ⟨e, hraw⟩) hrefused
    | error cause =>
      obtain ⟨reason, rfl⟩ := kind.decodes_hydrate raw cause hraw
      exact ⟨reason, rfl⟩

theorem hydrate_strayRecord :
    hydrate strayRecord = .ok strayMerchant ∧
      (strayMerchant.updated = none ↔
        ∀ j, strayRecord.given? "updated" = some j → j.Falsy) ∧
      ¬ EntityKind.merchant.Accepts (.array []) ∧
      ∃ reason, (hydrate (.array []) : Except ApiError Merchant) = .error (.decode reason) := by
  have hhydrate : hydrate strayRecord = .ok strayMerchant := by rfl
  have hrefused : ¬ EntityKind.merchant.Accepts (.array []) := by
    rintro ⟨hnull | ⟨members, hobject⟩, -⟩
    · cases hnull
    · cases hobject
  have hdates := (hydrate_recordLanguage .merchant strayRecord).2.2.1 strayMerchant hhydrate
  exact ⟨hhydrate, hdates.2, hrefused,
    (hydrate_recordLanguage .merchant (.array [])).2.2.2.2 hrefused⟩

end EntityKind

end MerchantApi
