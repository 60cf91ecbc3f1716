import MerchantApi.Proofs.Entity.NormalForm
/-!
# Stability of normal forms

Bringing a record into its normal form twice, or hydrating the JSON form of an
entity, gives back what one started from exactly when every date has a year
that RFC 3339 can write.  Dates come from milliseconds and from offsets too, so
that other years occur.
-/

namespace MerchantApi

inductive EntityKind where
  | user
  | merchant
  | mapping
deriving DecidableEq

namespace EntityKind

def Carrier : EntityKind → Type
  | .user => User
  | .merchant => Merchant
  | .mapping => Mapping

instance : (kind : EntityKind) → Entity kind.Carrier
  | .user => inferInstanceAs (Entity User)
  | .merchant => inferInstanceAs (Entity Merchant)
  | .mapping => inferInstanceAs (Entity Mapping)

instance : (kind : EntityKind) → Entity.Lawful kind.Carrier
  | .user => inferInstanceAs (Entity.Lawful User)
  | .merchant => inferInstanceAs (Entity.Lawful Merchant)
  | .mapping => inferInstanceAs (Entity.Lawful Mapping)

end EntityKind

/-! ## Dates of values and of entities -/

def Json.member? : Json → String → Option Json
  | .object members, name => Members.get? members name
  | _, _ => none

def Entity.WritesDate (E : Type) [Entity E] (record : Json) (t : Instant) : Prop :=
  ∃ name ∈ Entity.dates E, record.member? name = some (.string t.text)

def User.instants (u : User) : List Instant := u.created.toList ++ u.updated.toList

def Mapping.instants (m : Mapping) : List Instant := m.created.toList ++ m.updated.toList

def Merchant.instants (m : Merchant) : List Instant :=
  m.created.toList ++ m.updated.toList ++ m.owner.instants

namespace EntityKind

def instants : (kind : EntityKind) → kind.Carrier → List Instant
  | .user, u => User.instants u
  | .merchant, m => Merchant.instants m
  | .mapping, m => Mapping.instants m

/-- Whether a record writes an instant as a date of its own or of its owner. -/
def WritesDate : EntityKind → Json → Instant → Prop
  | .user, record, t => Entity.WritesDate User record t
  | .merchant, record, t => Entity.WritesDate Merchant record t ∨
      ∃ owner, record.member? "owner" = some owner ∧ Entity.WritesDate User owner t
  | .mapping, record, t => Entity.WritesDate Mapping record t

end EntityKind

namespace Entity

variable {E : Type} [Entity E] {members : Members Json}

theorem normalize_object_eq_ok_iff {next : Members Json} :
    normalize E (.object members) = .ok (.object next) ↔
      normalMembers E (.object members) = .ok next := by
  rw [normalize, Outcome.map_eq_ok_iff]
  constructor
  · rintro ⟨found, hfound, heq⟩
    rw [hfound, Json.object.inj heq]
  · exact fun h => ⟨next, h, rfl⟩

theorem exists_normalMembers {raw value : Json} (h : normalize E raw = .ok value) :
    ∃ members, value = .object members ∧ normalMembers E raw = .ok members := by
  obtain ⟨members, hmembers, rfl⟩ := Outcome.map_eq_ok_iff.1 h
  exact ⟨members, rfl, hmembers⟩

private theorem forall_writesDate_iff :
    (∀ t, WritesDate E (.object members) t → t.HasPlainYear) ↔
      ∀ name ∈ dates E, ∀ t : Instant,
        Members.get? members name = some (.string t.text) → t.HasPlainYear :=
  ⟨fun h name hname t ht => h t ⟨name, hname, ht⟩, fun h t ⟨name, hname, ht⟩ => h name hname t ht⟩

variable [Lawful E]

theorem hydrate_json_eq_ok_iff (e : E)
    (hsame : ∀ next, normalMembers E (json e) = .ok next → next = record e) :
    hydrate (json e) = .ok e ↔ normalize E (json e) = .ok (json e) := by
  constructor
  · intro h
    obtain ⟨next, hnext, -⟩ := Outcome.bind_eq_ok_iff.1 h
    rw [normalize, hnext, hsame next hnext]
    rfl
  · intro h
    obtain ⟨next, hnext, -⟩ := Outcome.map_eq_ok_iff.1 h
    rw [hydrate, hnext, hsame next hnext]
    change (ofRecord (record e)).mapError _ = _
    rw [ofRecord_record]
    rfl

theorem NormalForm.eq_ok_iff_of_no_relations (h : NormalForm E members)
    (hnone : relations E = []) :
    normalMembers E (.object members) = .ok members ↔
      ∀ t, WritesDate E (.object members) t → t.HasPlainYear := by
  rw [h.normalMembers_eq_ok_iff (by simp [hnone]), forall_writesDate_iff, hnone]
  simp

end Entity

namespace EntityKind

/-- A record in normal form, and so is its owner if the kind has one. -/
def NormalForm : EntityKind → Members Json → Prop
  | .user, members => Entity.NormalForm User members
  | .merchant, members => Entity.NormalForm Merchant members ∧
      ∃ owner, Members.get? members "owner" = some (.object owner) ∧ Entity.NormalForm User owner
  | .mapping, members => Entity.NormalForm Mapping members

open Entity

theorem normalForm_of_normalMembers (kind : EntityKind) {raw : Json} {members : Members Json}
    (h : normalMembers kind.Carrier raw = .ok members) : kind.NormalForm members := by
  cases kind with
  | user =>
    have huser : normalMembers User raw = .ok members := h
    exact (Entity.normalForm_of_normalMembers huser).1
  | mapping =>
    have hmapping : normalMembers Mapping raw = .ok members := h
    exact (Entity.normalForm_of_normalMembers hmapping).1
  | merchant =>
    have hmerchant : normalMembers Merchant raw = .ok members := h
    obtain ⟨hform, hrelations⟩ := Entity.normalForm_of_normalMembers hmerchant
    obtain ⟨raw, value, hvalue, hget⟩ := hrelations (.to User "owner") List.mem_cons_self
    have hnormalize : normalize User raw = .ok value := hvalue
    obtain ⟨owner, rfl, howner⟩ := exists_normalMembers hnormalize
    exact ⟨hform, owner, hget, (Entity.normalForm_of_normalMembers howner).1⟩

theorem normalForm_record : (kind : EntityKind) → (e : kind.Carrier) →
    kind.NormalForm (record e)
  | .user, u => Entity.normalForm_record (E := User) u
  | .mapping, m => Entity.normalForm_record (E := Mapping) m
  | .merchant, m => ⟨Entity.normalForm_record (E := Merchant) m,
      record (Merchant.owner m), rfl, Entity.normalForm_record (Merchant.owner m)⟩

private theorem eq_of_normalize_owner {owner : Members Json} (h : Entity.NormalForm User owner)
    (j : Json) (hj : normalize User (.object owner) = .ok j) : j = .object owner := by
  obtain ⟨next, rfl, hnext⟩ := exists_normalMembers hj
  rw [h.eq_of_normalMembers (by simp [relations]) hnext]

theorem eq_of_normalMembers : (kind : EntityKind) → {members next : Members Json} →
    kind.NormalForm members → normalMembers kind.Carrier (.object members) = .ok next →
      next = members
  | .user, _, _, h, hnext => h.eq_of_normalMembers (by simp [relations]) hnext
  | .mapping, _, _, h, hnext => h.eq_of_normalMembers (by simp [relations]) hnext
  | .merchant, members, next, ⟨h, owner, hget, howner⟩, hnext => by
    refine h.eq_of_normalMembers ?_ hnext
    rintro relation (_ | ⟨_, ⟨⟩⟩) after hafter
    exact eq_of_normalizeRelation h.sorted hget (eq_of_normalize_owner howner) hafter

theorem normalMembers_eq_ok_iff : (kind : EntityKind) → {members : Members Json} →
    kind.NormalForm members →
      (normalMembers kind.Carrier (.object members) = .ok members ↔
        ∀ t, kind.WritesDate (.object members) t → t.HasPlainYear)
  | .user, _, h => h.eq_ok_iff_of_no_relations rfl
  | .mapping, _, h => h.eq_ok_iff_of_no_relations rfl
  | .merchant, members, ⟨h, owner, hget, howner⟩ => by
    have hsame := eq_of_normalize_owner howner
    have hrelation : ∀ relation ∈ relations Merchant, ∀ next,
        normalizeRelation members relation = .ok next → next = members := by
      rintro relation (_ | ⟨_, ⟨⟩⟩) next hnext
      exact eq_of_normalizeRelation h.sorted hget hsame hnext
    have howners : (∀ relation ∈ relations Merchant,
        normalizeRelation members relation = .ok members) ↔
          ∀ t, Entity.WritesDate User (.object owner) t → t.HasPlainYear := by
      have hstep : normalizeRelation members (.to User "owner") = .ok members ↔
          normalize User (.object owner) = .ok (.object owner) :=
        normalizeRelation_eq_ok_iff h.sorted hget hsame
      rw [← howner.eq_ok_iff_of_no_relations rfl, ← normalize_object_eq_ok_iff, ← hstep]
      exact List.forall_mem_singleton
    refine (h.normalMembers_eq_ok_iff hrelation).trans ?_
    rw [howners, ← forall_writesDate_iff]
    constructor
    · rintro ⟨hown, htheirs⟩ t (ht | ⟨value, hvalue, ht⟩)
      · exact hown t ht
      · have heq : some value = some (.object owner) := hvalue.symm.trans hget
        exact htheirs t (Option.some.inj heq ▸ ht)
    · intro hall
      exact ⟨fun t ht => hall t (Or.inl ht), fun t ht => hall t (Or.inr ⟨_, hget, ht⟩)⟩

theorem writesDate_iff {E : Type} [Entity E] {members : Members Json}
    {created updated : Option Instant} (hdates : dates E = ["created", "updated"])
    (hcreated : Members.get? members "created" = some (Field.ofInstant created))
    (hupdated : Members.get? members "updated" = some (Field.ofInstant updated)) (t : Instant) :
    Entity.WritesDate E (.object members) t ↔ t ∈ created.toList ++ updated.toList := by
  have hwritten : ∀ s : Option Instant, some (Field.ofInstant s) = some (.string t.text) ↔
      t ∈ s.toList := by
    rintro (_ | s)
    · simp [Field.ofInstant]
    · rw [Option.some.injEq, Field.ofInstant, Json.string.injEq, Option.toList_some,
        List.mem_singleton, eq_comm]
      exact Instant.text_injective.eq_iff
  rw [Entity.WritesDate, hdates, List.mem_append, ← hwritten, ← hwritten, ← hcreated, ← hupdated]
  simp [Json.member?]

theorem writesDate_json_iff (kind : EntityKind) (e : kind.Carrier) (t : Instant) :
    kind.WritesDate (json e) t ↔ t ∈ kind.instants e := by
  cases kind with
  | user => exact writesDate_iff (E := User) rfl rfl rfl t
  | mapping => exact writesDate_iff (E := Mapping) rfl rfl rfl t
  | merchant =>
    have hown : Entity.WritesDate Merchant (.object (record (E := Merchant) e)) t ↔
        t ∈ (Merchant.created e).toList ++ (Merchant.updated e).toList :=
      writesDate_iff rfl rfl rfl t
    have howner : Entity.WritesDate User (.object (record (Merchant.owner e))) t ↔
        t ∈ (Merchant.owner e).instants :=
      writesDate_iff rfl rfl rfl t
    have hmember : Json.member? (json (E := Merchant) e) "owner" =
        some (.object (record (Merchant.owner e))) := rfl
    change Entity.WritesDate Merchant (.object (record (E := Merchant) e)) t ∨ _ ↔
      t ∈ (Merchant.created e).toList ++ (Merchant.updated e).toList ++ (Merchant.owner e).instants
    rw [List.mem_append, ← hown, ← howner]
    refine or_congr_right ⟨?_, fun h => ⟨_, hmember, h⟩⟩
    rintro ⟨owner, hget, h⟩
    have heq : some owner = some _ := hget.symm.trans hmember
    exact Option.some.inj heq ▸ h

theorem hydrate_json_of_hasPlainYear (kind : EntityKind) {e : kind.Carrier}
    (h : ∀ t ∈ kind.instants e, t.HasPlainYear) : hydrate (json e) = .ok e := by
  have hform := kind.normalForm_record e
  have hwritten : ∀ t, kind.WritesDate (json e) t → t.HasPlainYear :=
    fun t ht => h t ((kind.writesDate_json_iff e t).1 ht)
  have hmembers : normalMembers kind.Carrier (json e) = .ok (record e) :=
    (kind.normalMembers_eq_ok_iff hform).2 hwritten
  rw [hydrate_json_eq_ok_iff e fun _ hnext => kind.eq_of_normalMembers hform hnext]
  exact normalize_object_eq_ok_iff.2 hmembers

/-- Normal forms and entities are stable exactly when the years of their dates
have four digits; otherwise they are refused, and they never change. -/
theorem stable_iff_hasPlainYear (kind : EntityKind) :
    (∀ raw value, normalize kind.Carrier raw = .ok value →
      (normalize kind.Carrier value = .ok value ↔
        ∀ t, kind.WritesDate value t → t.HasPlainYear) ∧
      ∀ other, normalize kind.Carrier value = .ok other → other = value) ∧
    ∀ e : kind.Carrier,
      (hydrate (json e) = .ok e ↔ ∀ t ∈ kind.instants e, t.HasPlainYear) ∧
      (∀ other, hydrate (json e) = .ok other → other = e) ∧
      rehydrate e (.object []) = hydrate (json e) ∧ rehydrate e .null = hydrate (json e) := by
  constructor
  · intro raw value h
    obtain ⟨members, rfl, hmembers⟩ := exists_normalMembers h
    have hform := kind.normalForm_of_normalMembers hmembers
    refine ⟨normalize_object_eq_ok_iff.trans (kind.normalMembers_eq_ok_iff hform), ?_⟩
    intro other hother
    obtain ⟨next, rfl, hnext⟩ := exists_normalMembers hother
    rw [kind.eq_of_normalMembers hform hnext]
  · intro e
    have hform := kind.normalForm_record e
    have hsame : ∀ next, normalMembers kind.Carrier (json e) = .ok next → next = record e :=
      fun next hnext => kind.eq_of_normalMembers hform hnext
    refine ⟨?_, ?_, rfl, rfl⟩
    · rw [hydrate_json_eq_ok_iff e hsame]
      refine (normalize_object_eq_ok_iff.trans (kind.normalMembers_eq_ok_iff hform)).trans ?_
      exact forall_congr' fun t => imp_congr_left (kind.writesDate_json_iff e t)
    · intro other hother
      obtain ⟨next, hnext, hread⟩ := Outcome.bind_eq_ok_iff.1 hother
      rw [hsame next hnext, ofRecord_record] at hread
      exact (Except.ok.inj hread).symm

def lateRecord : Json :=
  .object [("created", .number (.int ⟨253402300800000, by decide, by decide⟩))]

def lateNormalForm : Json :=
  .object [("created", .string "+10000-01-01T00:00:00Z"), ("email", .string ""),
    ("id", .ofUInt64 0), ("name", .string ""), ("updated", .null), ("username", .string "")]

def lateUser : User :=
  { User.blank with
    created := some ⟨253402300800, 0, by decide, by decide, by decide, by decide⟩ }

theorem stable_lateRecord :
    normalize User lateRecord = .ok lateNormalForm ∧
      (normalize User lateNormalForm = .ok lateNormalForm ↔
        ∀ t, EntityKind.user.WritesDate lateNormalForm t → t.HasPlainYear) ∧
      (hydrate (json lateUser) = .ok lateUser ↔ ∀ t ∈ lateUser.instants, t.HasPlainYear) :=
  have hnormal : normalize User lateRecord = .ok lateNormalForm := by rfl
  ⟨hnormal, ((stable_iff_hasPlainYear .user).1 lateRecord lateNormalForm hnormal).1,
    ((stable_iff_hasPlainYear .user).2 lateUser).1⟩

theorem refused_lateNormalForm :
    normalize User lateRecord = .ok lateNormalForm ∧
      (∃ cause, normalize User lateNormalForm = .error cause) ∧
      hydrate lateRecord = .ok lateUser ∧
      (∃ cause, (hydrate (json lateUser) : Except ApiError User) = .error cause) :=
  ⟨rfl, ⟨_, rfl⟩, rfl, ⟨_, rfl⟩⟩

end EntityKind

end MerchantApi
