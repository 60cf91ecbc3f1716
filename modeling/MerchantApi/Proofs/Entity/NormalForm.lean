import MerchantApi.Proofs.Entity.Lawful
import MerchantApi.Proofs.Entity.Revise
/-!
# Normal forms of records

A normal form has every declared field, nulls only for dates, and texts of
instants for all other dates.  Bringing it into its normal form again changes
nothing, or it fails at a date whose year RFC 3339 cannot write.
-/

namespace MerchantApi.Entity

variable {E : Type} [Entity E] {members : Members Json}

/-! ## What normal forms are -/

/-- Members of a record that was laid over the blank entity. -/
structure Completed (E : Type) [Entity E] (members : Members Json) : Prop where
  sorted : members.Sorted
  declared : ∀ name, (Members.get? (record (blank : E)) name).isSome →
    (Members.get? members name).isSome
  null_date : ∀ name, Members.get? members name = some .null → name ∈ dates E

def IsDated (members : Members Json) (name : String) : Prop :=
  ∃ t, Members.get? members name = some (Field.ofInstant t)

structure NormalForm (E : Type) [Entity E] (members : Members Json) : Prop
    extends Completed E members where
  dated : ∀ name ∈ dates E, IsDated members name

theorem IsDated.insert {name other : String} (h : IsDated members other) (t : Option Instant) :
    IsDated (Members.insert name (Field.ofInstant t) members) other := by
  rw [IsDated, Members.get?_insert]
  split
  · exact ⟨t, rfl⟩
  · exact h

private theorem isDated_insert_self (members : Members Json) (name : String) (t : Option Instant) :
    IsDated (Members.insert name (Field.ofInstant t) members) name :=
  ⟨t, by rw [Members.get?_insert, if_pos rfl]⟩

theorem Completed.insert (h : Completed E members) {name : String} {value : Json}
    (hnull : value = .null → name ∈ dates E) :
    Completed E (Members.insert name value members) where
  sorted := h.sorted.insert _ _
  declared other hother := by
    rw [Members.get?_insert]
    split
    · rfl
    · exact h.declared other hother
  null_date other hother := by
    rw [Members.get?_insert] at hother
    split at hother
    · rename_i heq
      exact heq ▸ hnull (Option.some.inj hother)
    · exact h.null_date other hother

theorem NormalForm.insert (h : NormalForm E members) {name : String} (hname : name ∉ dates E)
    {value : Json} (hvalue : value ≠ .null) :
    NormalForm E (Members.insert name value members) where
  toCompleted := h.toCompleted.insert fun hnull => absurd hnull hvalue
  dated other hother := by
    have hne : name ≠ other := fun heq => hname (heq ▸ hother)
    rw [IsDated, Members.get?_insert, if_neg hne]
    exact h.dated other hother

/-! ## Dates -/

private theorem normalDate_eq_ok {entity field : String} {value j : Json}
    (h : normalDate entity field value = .ok j) : ∃ t, j = Field.ofInstant t := by
  rw [normalDate] at h
  split at h
  · split at h
    · rename_i t _
      exact ⟨some t, (Except.ok.inj h).symm⟩
    · simp at h
  · exact ⟨none, (Except.ok.inj h).symm⟩

theorem normalDate_ofInstant (entity field : String) (t : Instant) :
    normalDate entity field (Field.ofInstant (some t)) =
      if t.HasPlainYear then .ok (Field.ofInstant (some t))
      else .error (.decode (.invalidDate entity field (.string t.text))) := by
  have htruthy : isTruthy (.string t.text) = true := by
    simp [isTruthy, Instant.text_ne_empty]
  rw [Field.ofInstant, normalDate, if_pos htruthy, instant?]
  by_cases hyear : t.HasPlainYear
  · rw [Instant.parse_standard_text hyear, if_pos hyear]
  · rw [Instant.parse_standard_text_eq_none hyear, if_neg hyear]

private theorem normalizeDate_eq_ok {entity name : String} {next : Members Json}
    (hname : (Members.get? members name).isSome)
    (h : normalizeDate entity members name = .ok next) :
    ∃ t, next = Members.insert name (Field.ofInstant t) members := by
  obtain ⟨value, hvalue⟩ := Option.isSome_iff_exists.1 hname
  rw [normalizeDate, hvalue] at h
  obtain ⟨j, hj, rfl⟩ := Outcome.map_eq_ok_iff.1 h
  obtain ⟨t, rfl⟩ := normalDate_eq_ok hj
  exact ⟨t, rfl⟩

theorem NormalForm.normalizeDate_eq (h : NormalForm E members) (entity : String) {name : String}
    {t : Option Instant} (ht : Members.get? members name = some (Field.ofInstant t)) :
    normalizeDate entity members name =
      (normalDate entity name (Field.ofInstant t)).map fun _ => members := by
  rw [normalizeDate, ht]
  cases hdate : normalDate entity name (Field.ofInstant t) with
  | error e => simp only [hdate, Except.map]
  | ok j =>
    have hj : j = Field.ofInstant t := by
      cases t with
      | none => exact (Except.ok.inj hdate).symm
      | some t =>
        rw [normalDate_ofInstant] at hdate
        split at hdate
        · exact (Except.ok.inj hdate).symm
        · simp at hdate
    simp only [hdate, Except.map, hj, h.sorted.insert_self ht]

theorem NormalForm.eq_of_normalizeDate (h : NormalForm E members) {entity name : String}
    (hname : name ∈ dates E) {next : Members Json}
    (hnext : normalizeDate entity members name = .ok next) : next = members := by
  obtain ⟨t, ht⟩ := h.dated name hname
  rw [h.normalizeDate_eq entity ht] at hnext
  obtain ⟨-, -, heq⟩ := Outcome.map_eq_ok_iff.1 hnext
  exact heq.symm

/-- It is left as it is exactly when its year has four digits. -/
theorem NormalForm.normalizeDate_eq_ok_iff (h : NormalForm E members) (entity : String)
    {name : String} (hname : name ∈ dates E) :
    normalizeDate entity members name = .ok members ↔
      ∀ t : Instant, Members.get? members name = some (.string t.text) → t.HasPlainYear := by
  obtain ⟨t, ht⟩ := h.dated name hname
  rw [h.normalizeDate_eq entity ht, ht]
  cases t with
  | none => exact ⟨fun _ t heq => by simp [Field.ofInstant] at heq, fun _ => rfl⟩
  | some t =>
    have hinstant : ∀ s : Instant, some (Field.ofInstant (some t)) = some (.string s.text) ↔
        s = t := fun s =>
      ⟨fun heq => (Instant.text_injective (Json.string.inj (Option.some.inj heq))).symm,
        fun heq => heq ▸ rfl⟩
    simp only [hinstant, forall_eq, normalDate_ofInstant]
    by_cases hyear : t.HasPlainYear
    · simp [hyear, Except.map]
    · simp [hyear, Except.map]

section Laws

variable [Lawful E]

theorem isSome_get?_date (h : Completed E members) {name : String} (hname : name ∈ dates E) :
    (Members.get? members name).isSome := by
  apply h.declared
  rw [Lawful.blank_dates name hname]
  rfl

/-- Dates that were brought into their normal forms stay in them while the
others follow. -/
theorem isDated_of_foldlM_normalizeDate (entity : String) {names : List String}
    (hnames : ∀ name ∈ names, name ∈ dates E) {next : Members Json} (h : Completed E members)
    (hfold : names.foldlM (normalizeDate entity) members = .ok next) :
    Completed E next ∧
      ∀ name, name ∈ names ∨ IsDated members name → IsDated next name := by
  induction names generalizing members with
  | nil =>
    cases hfold
    exact ⟨h, fun name hname => hname.resolve_left List.not_mem_nil⟩
  | cons head names ih =>
    rw [List.foldlM_cons, Outcome.bind_eq_ok_iff] at hfold
    obtain ⟨after, hhead, hrest⟩ := hfold
    have hdate : head ∈ dates E := hnames head List.mem_cons_self
    obtain ⟨t, rfl⟩ := normalizeDate_eq_ok (isSome_get?_date h hdate) hhead
    obtain ⟨hnext, hdated⟩ := ih (fun name hname => hnames name (List.mem_cons_of_mem _ hname))
      (h.insert fun _ => hdate) hrest
    refine ⟨hnext, fun name hname => ?_⟩
    rcases hname with hname | hname
    · rcases List.mem_cons.1 hname with rfl | hname
      · exact hdated _ (Or.inr (isDated_insert_self members name t))
      · exact hdated name (Or.inl hname)
    · exact hdated name (Or.inr (hname.insert t))

theorem completed_merge (given : Members Json) :
    Completed E (merge (record (blank : E)) given) where
  sorted := (sorted_record _).overlay _
  declared name hname := Members.isSome_get?_overlay hname
  null_date name hname := by
    rcases Members.mem_of_get?_overlay hname with hmem | hblank
    · exact absurd (List.mem_filter.1 hmem).2 Bool.false_ne_true
    · obtain ⟨field, hfield, rfl, hwrite⟩ := field_of_get?_record hblank
      by_contra hdate
      exact Lawful.value_fields field hfield hdate _ hwrite

/-- What a relation became stays as the others follow. -/
theorem get?_of_foldlM_normalizeRelation {relations : List Relation}
    (hdistinct : relations.Pairwise fun a b => a.field ≠ b.field) {next : Members Json}
    (hfold : relations.foldlM normalizeRelation members = .ok next) :
    ∀ relation ∈ relations, ∃ raw value, relation.normalize raw = .ok value ∧
      Members.get? next relation.field = some value := by
  have hrevised : (relations.map fun relation => (relation.field, relation.normalize)).foldlM
      revise members = .ok next := by
    rw [List.foldlM_map]
    exact hfold
  intro relation hrelation
  obtain ⟨value, hvalue, hget⟩ := (get?_of_foldlM_revise (List.pairwise_map.2 hdistinct)
    hrevised).2 _ (List.mem_map_of_mem hrelation)
  exact ⟨_, value, hvalue, hget⟩

/-- The members that bringing a record into its normal form yields are in normal
form, and so are its relations. -/
theorem normalForm_of_normalMembers {raw : Json} (h : normalMembers E raw = .ok members) :
    NormalForm E members ∧ ∀ relation ∈ relations E, ∃ raw value,
      relation.normalize raw = .ok value ∧
        Members.get? members relation.field = some value := by
  obtain ⟨given, -, h⟩ := Outcome.bind_eq_ok_iff.1 h
  obtain ⟨dated, hdates, hrelations⟩ := Outcome.bind_eq_ok_iff.1 h
  obtain ⟨hcompleted, hdated⟩ := isDated_of_foldlM_normalizeDate (name E) (fun _ hname => hname)
    (completed_merge given) hdates
  refine ⟨?_, get?_of_foldlM_normalizeRelation Lawful.distinct_relations hrelations⟩
  have hform : NormalForm E dated := ⟨hcompleted, fun name hname => hdated name (Or.inl hname)⟩
  refine Outcome.foldlM_induction (NormalForm E) (fun after hafter relation hrelation next hnext =>
    ?_) hform hrelations
  obtain ⟨value, hvalue, rfl⟩ := Outcome.map_eq_ok_iff.1 hnext
  refine hafter.insert (Lawful.declared_relations relation hrelation).1 fun hnull => ?_
  exact Lawful.value_relations relation hrelation _ (hnull ▸ hvalue)

theorem normalForm_record (e : E) : NormalForm E (record e) where
  sorted := sorted_record e
  declared name hname := by
    obtain ⟨value, hvalue⟩ := Option.isSome_iff_exists.1 hname
    obtain ⟨field, hfield, rfl, -⟩ := field_of_get?_record hvalue
    rw [get?_record e hfield]
    rfl
  null_date name hname := by
    obtain ⟨field, hfield, rfl, hwrite⟩ := field_of_get?_record hname
    by_contra hdate
    exact Lawful.value_fields field hfield hdate e hwrite
  dated name hname := by
    obtain ⟨field, hfield, rfl, -⟩ := field_of_get?_record (Lawful.blank_dates name hname)
    obtain ⟨get, hget⟩ := Lawful.date_fields field hfield hname
    exact ⟨get e, by rw [get?_record e hfield, hget]⟩

/-! ## Normal forms of normal forms -/

/-- A record in normal form hides the blank entity completely. -/
theorem NormalForm.merge_self (h : NormalForm E members) :
    merge (record (blank : E)) members = members := by
  have hgiven : Members.Sorted (members.filter fun member => !member.2.isNull) :=
    h.sorted.filter _
  refine ((sorted_record _).overlay _).ext h.sorted fun name => ?_
  refine (hgiven.get?_overlay _ name).trans ?_
  rw [h.sorted.get?_filter]
  cases hget : Members.get? members name with
  | none =>
    have hblank : Members.get? (record (blank : E)) name = none := by
      by_contra hsome
      have hdeclared := h.declared name (Option.isSome_iff_ne_none.2 hsome)
      rw [hget] at hdeclared
      exact absurd hdeclared (by decide)
    rw [hblank]
    rfl
  | some value =>
    cases hnull : value.isNull with
    | false => simp [hnull]
    | true =>
      obtain rfl : value = .null := Json.eq_null_of_isNull hnull
      rw [Lawful.blank_dates name (h.null_date name hget)]
      rfl

theorem NormalForm.normalMembers_eq (h : NormalForm E members) :
    normalMembers E (.object members) =
      ((dates E).foldlM (normalizeDate (name E)) members >>= fun dated =>
        (relations E).foldlM normalizeRelation dated) := by
  change ((dates E).foldlM (normalizeDate (name E)) (merge (record (blank : E)) members) >>=
    fun dated => (relations E).foldlM normalizeRelation dated) = _
  rw [h.merge_self]

theorem NormalForm.eq_of_normalMembers (h : NormalForm E members)
    (hrelations : ∀ relation ∈ relations E, ∀ next,
      normalizeRelation members relation = .ok next → next = members)
    {next : Members Json} (hnext : normalMembers E (.object members) = .ok next) :
    next = members := by
  rw [h.normalMembers_eq] at hnext
  obtain ⟨dated, hdates, hrest⟩ := Outcome.bind_eq_ok_iff.1 hnext
  have hsame : dated = members :=
    Outcome.eq_of_foldlM_eq_ok (fun _ hname _ => h.eq_of_normalizeDate hname) hdates
  rw [hsame] at hrest
  exact Outcome.eq_of_foldlM_eq_ok hrelations hrest

theorem NormalForm.normalMembers_eq_ok_iff (h : NormalForm E members)
    (hrelations : ∀ relation ∈ relations E, ∀ next,
      normalizeRelation members relation = .ok next → next = members) :
    normalMembers E (.object members) = .ok members ↔
      (∀ name ∈ dates E, ∀ t : Instant,
        Members.get? members name = some (.string t.text) → t.HasPlainYear) ∧
      ∀ relation ∈ relations E, normalizeRelation members relation = .ok members := by
  have hdates : ∀ name' ∈ dates E, ∀ next,
      normalizeDate (name E) members name' = .ok next → next = members :=
    fun _ hname _ => h.eq_of_normalizeDate hname
  rw [h.normalMembers_eq, Outcome.bind_eq_ok_iff, ← Outcome.foldlM_eq_ok_self_iff hrelations]
  have hall : (∀ name ∈ dates E, ∀ t : Instant,
      Members.get? members name = some (.string t.text) → t.HasPlainYear) ↔
      (dates E).foldlM (normalizeDate (name E)) members = .ok members := by
    rw [Outcome.foldlM_eq_ok_self_iff hdates]
    exact forall₂_congr fun _ hname => (h.normalizeDate_eq_ok_iff _ hname).symm
  rw [hall]
  constructor
  · rintro ⟨dated, hdated, hnext⟩
    obtain rfl := Outcome.eq_of_foldlM_eq_ok hdates hdated
    exact ⟨hdated, hnext⟩
  · exact fun ⟨hdated, hnext⟩ => ⟨members, hdated, hnext⟩

end Laws

/-! ## Relations -/

theorem normalizeRelation_eq {relation : Relation} {value : Json}
    (hvalue : Members.get? members relation.field = some value) :
    normalizeRelation members relation =
      (relation.normalize value).map fun j => Members.insert relation.field j members := by
  rw [normalizeRelation, hvalue]
  rfl

theorem eq_of_normalizeRelation (hsorted : members.Sorted) {relation : Relation} {value : Json}
    (hvalue : Members.get? members relation.field = some value)
    (hsame : ∀ j, relation.normalize value = .ok j → j = value) {next : Members Json}
    (hnext : normalizeRelation members relation = .ok next) : next = members := by
  rw [normalizeRelation_eq hvalue] at hnext
  obtain ⟨j, hj, rfl⟩ := Outcome.map_eq_ok_iff.1 hnext
  rw [hsame j hj, hsorted.insert_self hvalue]

theorem normalizeRelation_eq_ok_iff (hsorted : members.Sorted) {relation : Relation}
    {value : Json} (hvalue : Members.get? members relation.field = some value)
    (hsame : ∀ j, relation.normalize value = .ok j → j = value) :
    normalizeRelation members relation = .ok members ↔ relation.normalize value = .ok value := by
  rw [normalizeRelation_eq hvalue]
  constructor
  · intro h
    obtain ⟨j, hj, -⟩ := Outcome.map_eq_ok_iff.1 h
    rw [hj, hsame j hj]
  · intro h
    rw [h]
    exact congrArg _ (hsorted.insert_self hvalue)

end MerchantApi.Entity
