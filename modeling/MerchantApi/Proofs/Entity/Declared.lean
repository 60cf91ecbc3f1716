import MerchantApi.Proofs.Entity.Undeclared
/-!
# Declared fields

A declared field has a name, a type and a default.  The JSON values that stand
for a value of the type are told without a reader or a normal form, and every
kind of field is shown to read what its type says.
-/

namespace MerchantApi

open Entity

/-! ## What values stand for -/

def Json.Falsy (j : Json) : Prop :=
  j = .bool false ∨ j = .string "" ∨ ∃ n : Json.Number, j = .number n ∧ n.isZero = true

/-- A text of RFC 3339, or milliseconds that are not zero, for an instant. -/
def Json.NamesInstant (j : Json) (t : Instant) : Prop :=
  (∃ s, j = .string s ∧ Instant.parse .standard s = some t) ∨
    ∃ n : WideInt, j = .number (.int n) ∧ n.val ≠ 0 ∧ n.val < 2 ^ 63 ∧
      Instant.ofMillis? n.val = some t

inductive FieldType where
  | identifier
  | integer
  | text
  | flag
  | date
  | user

namespace FieldType

abbrev Value : FieldType → Type
  | .identifier => UInt64
  | .integer => Int64
  | .text => String
  | .flag => Bool
  | .date => Option Instant
  | .user => User

/-- Whether a JSON value, which is not null, stands for a value of a type. -/
def Denotes : (type : FieldType) → Json → type.Value → Prop
  | .identifier, j, n => ∃ w : WideInt, j = .number (.int w) ∧ w.val = n.toNat
  | .integer, j, n => ∃ w : WideInt, j = .number (.int w) ∧ w.val = n.toInt
  | .text, j, s => j = .string s
  | .flag, j, b => j = .bool b
  | .date, j, none => j.Falsy
  | .date, j, some t => j.NamesInstant t
  | .user, j, u => (∃ members, j = .object members) ∧ hydrate j = .ok u

def WellTyped : FieldType → Json → Prop
  | .identifier, j => ∃ w : WideInt, j = .number (.int w) ∧ 0 ≤ w.val ∧ w.val < 2 ^ 64
  | .integer, j => ∃ w : WideInt, j = .number (.int w) ∧ -2 ^ 63 ≤ w.val ∧ w.val < 2 ^ 63
  | .text, j => ∃ s, j = .string s
  | .flag, j => ∃ b, j = .bool b
  | .date, j => j.Falsy ∨ ∃ t, j.NamesInstant t
  | .user, j => (∃ members, j = .object members) ∧ ∃ u : User, hydrate j = .ok u

theorem wellTyped_iff (type : FieldType) (j : Json) :
    type.WellTyped j ↔ ∃ v, type.Denotes j v := by
  cases type with
  | identifier =>
    constructor
    · rintro ⟨w, rfl, hlower, hupper⟩
      refine ⟨UInt64.ofNat w.val.toNat, w, rfl, ?_⟩
      rw [UInt64.toNat_ofNat_of_lt' (by simp only [UInt64.size]; omega)]
      omega
    · rintro ⟨n, w, rfl, hval⟩
      have hn := UInt64.toNat_lt n
      exact ⟨w, rfl, by omega, by omega⟩
  | integer =>
    constructor
    · rintro ⟨w, rfl, hlower, hupper⟩
      refine ⟨Int64.ofInt w.val, w, rfl, ?_⟩
      rw [Int64.toInt_ofInt_of_le (by omega) (by omega)]
    · rintro ⟨n, w, rfl, hval⟩
      have hlower := Int64.le_toInt n
      have hupper := Int64.toInt_lt n
      exact ⟨w, rfl, by omega, by omega⟩
  | text => rfl
  | flag => rfl
  | date =>
    constructor
    · rintro (hfalsy | ⟨t, ht⟩)
      · exact ⟨none, hfalsy⟩
      · exact ⟨some t, ht⟩
    · rintro ⟨_ | t, h⟩
      · exact Or.inl h
      · exact Or.inr ⟨t, h⟩
  | user =>
    constructor
    · rintro ⟨hobject, u, hu⟩
      exact ⟨u, hobject, hu⟩
    · rintro ⟨u, hobject, hu⟩
      exact ⟨hobject, u, hu⟩

end FieldType

/-! ## What is read -/

private theorem Json.asUInt64_eq_ok_iff {j : Json} {n : UInt64} :
    asUInt64 j = .ok n ↔ FieldType.identifier.Denotes j n := by
  constructor
  · exact fun h => ⟨.ofUInt64 n, (ofUInt64_of_asUInt64 h).symm, rfl⟩
  · rintro ⟨w, rfl, hval⟩
    have hw : w = .ofUInt64 n := by
      cases w
      simpa only [WideInt.ofUInt64, WideInt.mk.injEq] using hval
    rw [hw]
    exact asUInt64_ofUInt64 n

private theorem Json.asInt64_eq_ok_iff {j : Json} {n : Int64} :
    asInt64 j = .ok n ↔ FieldType.integer.Denotes j n := by
  constructor
  · exact fun h => ⟨.ofInt64 n, (ofInt64_of_asInt64 h).symm, rfl⟩
  · rintro ⟨w, rfl, hval⟩
    have hw : w = .ofInt64 n := by
      cases w
      simpa only [WideInt.ofInt64, WideInt.mk.injEq] using hval
    rw [hw]
    exact asInt64_ofInt64 n

private theorem Json.asText_eq_ok_iff {j : Json} {s : String} :
    asText j = .ok s ↔ FieldType.text.Denotes j s :=
  ⟨fun h => (string_of_asText h).symm, fun h => by rw [show j = .string s from h]; rfl⟩

private theorem Json.asBool_eq_ok_iff {j : Json} {b : Bool} :
    asBool j = .ok b ↔ FieldType.flag.Denotes j b :=
  ⟨fun h => (bool_of_asBool h).symm, fun h => by rw [show j = .bool b from h]; rfl⟩

theorem Json.falsy_iff {j : Json} (h : j ≠ .null) : j.Falsy ↔ isTruthy j = false := by
  unfold Json.Falsy
  cases j <;> simp_all [isTruthy]

theorem Json.namesInstant_iff {j : Json} {t : Instant} :
    j.NamesInstant t ↔ isTruthy j = true ∧ instant? j = some t := by
  unfold Json.NamesInstant
  cases j with
  | string s =>
    have hempty : Instant.parse .standard "" = none := rfl
    have hne : Instant.parse .standard s = some t → s ≠ "" := by
      rintro h rfl
      rw [hempty] at h
      cases h
    simpa [isTruthy, instant?] using hne
  | number n =>
    cases n with
    | real x => simp [instant?]
    | int n =>
      have hlower := n.lower
      have hvalue : instant? (.number (.int n)) =
          if n.val < 0x8000000000000000 then Instant.ofMillis? n.val else none := by
        change n.toInt64?.bind _ = _
        unfold WideInt.toInt64?
        by_cases hupper : n.val < 0x8000000000000000
        · rw [if_pos hupper, if_pos hupper, Option.bind_some,
            Int64.toInt_ofInt_of_le (by omega) (by omega)]
        · rw [if_neg hupper, if_neg hupper, Option.bind_none]
      rw [hvalue]
      simp [isTruthy, Number.isZero]
  | _ => simp [instant?]

theorem Json.NamesInstant.not_falsy {j : Json} {t : Instant} (h : j.NamesInstant t) :
    ¬ j.Falsy := by
  have htruthy := (Json.namesInstant_iff.1 h).1
  rintro (rfl | rfl | ⟨n, rfl, hzero⟩)
  · cases htruthy
  · cases htruthy
  · simp [isTruthy, hzero] at htruthy

theorem FieldType.eq_none_iff_of_denotes {j : Json} {v : Option Instant}
    (h : FieldType.date.Denotes j v) : v = none ↔ j.Falsy := by
  cases v with
  | none => exact ⟨fun _ => h, fun _ => rfl⟩
  | some t =>
    have hnames : j.NamesInstant t := h
    exact ⟨nofun, fun hfalsy => absurd hfalsy hnames.not_falsy⟩

theorem Entity.normalDate_eq_ok_iff (entity field : String) {j k : Json} (h : j ≠ .null) :
    normalDate entity field j = .ok k ↔
      ∃ v, FieldType.date.Denotes j v ∧ Field.ofInstant v = k := by
  have hnone : FieldType.date.Denotes j none ↔ isTruthy j = false := Json.falsy_iff h
  have hsome : ∀ t, FieldType.date.Denotes j (some t) ↔
      isTruthy j = true ∧ instant? j = some t := fun t => Json.namesInstant_iff
  rw [Option.exists, hnone]
  simp only [hsome]
  unfold normalDate
  by_cases htruthy : isTruthy j = true
  · rw [if_pos htruthy]
    cases hinstant : instant? j with
    | none => simp [htruthy]
    | some t => simp [htruthy, Field.ofInstant]
  · rw [if_neg htruthy]
    simp [htruthy, Field.ofInstant]

theorem User.exists_normalize_iff {j : Json} (h : j ≠ .null) {u : User} :
    (∃ k, normalize User j = .ok k ∧ Field.asEntity User k = .ok u) ↔
      FieldType.user.Denotes j u := by
  have hrecord : (∃ k, normalize User j = .ok k ∧ Field.asEntity User k = .ok u) ↔
      hydrate j = .ok u := by
    rw [hydrate_eq_ok_iff_normalMembers]
    constructor
    · rintro ⟨k, hk, hu⟩
      obtain ⟨members, rfl, hmembers⟩ := exists_normalMembers hk
      exact ⟨members, hmembers, hu⟩
    · rintro ⟨members, hmembers, hu⟩
      exact ⟨.object members, normalize_of_normalMembers hmembers, hu⟩
  rw [hrecord]
  refine ⟨fun hu => ⟨?_, hu⟩, And.right⟩
  obtain ⟨hnull | hobject, -⟩ := hydrate_eq_ok_iff.1 hu
  · exact absurd hnull h
  · exact hobject

/-! ## Declared fields -/

structure Declared (E : Type) where
  name : String
  type : FieldType
  get : E → type.Value
  default : type.Value

namespace Declared

variable {E : Type}

/-- Whether an entity has the value that a raw record gives for a field, or the
default of the field where the record gives none. -/
def Holds (d : Declared E) (raw : Json) (e : E) : Prop :=
  match raw.given? d.name with
  | some j => d.type.Denotes j (d.get e)
  | none => d.get e = d.default

def Accepts (d : Declared E) (raw : Json) : Prop :=
  ∀ j, raw.given? d.name = some j → d.type.WellTyped j

section Holds

variable {d : Declared E} {raw : Json} {e : E}

theorem holds_iff_of_given {j : Json} (h : raw.given? d.name = some j) :
    d.Holds raw e ↔ d.type.Denotes j (d.get e) := by
  rw [Holds, h]

theorem holds_iff_of_missing (h : raw.given? d.name = none) :
    d.Holds raw e ↔ d.get e = d.default := by
  rw [Holds, h]

theorem Holds.eq_none_iff {name : String} {get : E → Option Instant}
    (h : Holds ⟨name, .date, get, none⟩ raw e) :
    get e = none ↔ ∀ j, raw.given? name = some j → j.Falsy := by
  cases hgiven : raw.given? name with
  | none => exact ⟨fun _ => nofun, fun _ => (holds_iff_of_missing hgiven).1 h⟩
  | some j =>
    have hdenotes := (holds_iff_of_given hgiven).1 h
    apply (FieldType.eq_none_iff_of_denotes hdenotes).trans
    exact ⟨fun hfalsy k hk => Option.some.inj hk ▸ hfalsy, fun hall => hall j rfl⟩

end Holds

variable [Entity E] {d : Declared E} {field : Field E} {raw : Json}

structure Describes (d : Declared E) (field : Field E) : Prop where
  name : field.name = d.name
  put : ∀ v, ∃ e, d.get e = v
  given : ∀ j, j ≠ .null → ∀ e, (∃ k, normalValue E field.name j = .ok k ∧
    field.read k e = .ok e) ↔ d.type.Denotes j (d.get e)
  missing : ∀ e, (∃ k, normalValue E field.name (field.write blank) = .ok k ∧
    field.read k e = .ok e) ↔ d.get e = d.default

theorem Describes.holds_iff (h : d.Describes field) (e : E) :
    (∃ k, normalValue E field.name (rawValue raw field) = .ok k ∧ field.read k e = .ok e) ↔
      d.Holds raw e := by
  unfold Holds rawValue
  rw [← h.name]
  cases hgiven : raw.given? field.name with
  | none => exact h.missing e
  | some j => exact h.given j (Json.ne_null_of_given hgiven) e

theorem Describes.accepts_iff (h : d.Describes field) :
    (∃ e, d.Holds raw e) ↔ d.Accepts raw := by
  unfold Holds Accepts
  cases raw.given? d.name with
  | none => simpa using h.put d.default
  | some j =>
    simp only [Option.some.injEq, forall_eq', FieldType.wellTyped_iff]
    constructor
    · rintro ⟨e, he⟩
      exact ⟨d.get e, he⟩
    · rintro ⟨v, hv⟩
      obtain ⟨e, rfl⟩ := h.put v
      exact ⟨e, hv⟩

theorem Describes.exists_read_iff (h : d.Describes field) (hlens : field.IsLens) :
    (∃ k x, normalValue E field.name (rawValue raw field) = .ok k ∧
      field.read k blank = .ok x) ↔ d.Accepts raw := by
  rw [← h.accepts_iff]
  constructor
  · rintro ⟨k, x, hk, hread⟩
    exact ⟨x, (h.holds_iff x).1 ⟨k, hk, hlens.read_again hread⟩⟩
  · rintro ⟨e, he⟩
    obtain ⟨k, hk, hread⟩ := (h.holds_iff e).2 he
    obtain ⟨x, hx⟩ := hlens.exists_read hread blank
    exact ⟨k, x, hk, hx⟩

/-! ### Fields that hold what is read -/

section Lens

variable {set : E → d.type.Value → E} {ofJson : Json → Except Json.Mismatch d.type.Value}
  {toJson : d.type.Value → Json}

theorem describes_of_lens (hlens : field.Lens d.get set ofJson toJson)
    (hname : field.name = d.name) (hdefault : d.get blank = d.default)
    (hgiven : ∀ j, j ≠ .null → ∀ v,
      (∃ k, normalValue E field.name j = .ok k ∧ ofJson k = .ok v) ↔ d.type.Denotes j v)
    (hmissing : ∃ k, normalValue E field.name (toJson d.default) = .ok k ∧
      ofJson k = .ok d.default) :
    d.Describes field where
  name := hname
  put v := ⟨set blank v, hlens.get_set blank v⟩
  given j hj e := by
    simp only [hlens.read_eq_self_iff]
    exact hgiven j hj (d.get e)
  missing e := by
    simp only [hlens.read_eq_self_iff, hlens.write_eq, hdefault]
    obtain ⟨k, hk, hread⟩ := hmissing
    constructor
    · rintro ⟨l, hl, he⟩
      obtain rfl : k = l := Except.ok.inj (hk.symm.trans hl)
      exact Except.ok.inj (he.symm.trans hread)
    · rintro he
      exact ⟨k, hk, he ▸ hread⟩

theorem describes_of_plain (hlens : field.Lens d.get set ofJson toJson)
    (hname : field.name = d.name) (hdefault : d.get blank = d.default)
    (hplain : ∀ r ∈ revisions E, r.1 ≠ field.name)
    (hread : ∀ j v, ofJson j = .ok v ↔ d.type.Denotes j v) : d.Describes field := by
  refine describes_of_lens hlens hname hdefault (fun j _ v => ?_) ?_
  · simp only [normalValue_of_ne hplain, Except.ok.injEq, exists_eq_left', hread]
  · exact ⟨_, normalValue_of_ne hplain _, hlens.of_to _⟩

end Lens

section Kinds

variable {name : String}

theorem describes_identifier {get : E → UInt64} {set : E → UInt64 → E}
    (hpart : Field.IsPart get set) (hplain : ∀ r ∈ revisions E, r.1 ≠ name)
    (hdefault : get blank = 0) :
    Describes ⟨name, .identifier, get, (0 : UInt64)⟩ (.identifier name get set) :=
  describes_of_plain (d := ⟨name, .identifier, get, (0 : UInt64)⟩)
    (Field.lens_identifier name hpart) rfl hdefault hplain fun _ _ => Json.asUInt64_eq_ok_iff

theorem describes_integer {get : E → Int64} {set : E → Int64 → E}
    (hpart : Field.IsPart get set) (hplain : ∀ r ∈ revisions E, r.1 ≠ name)
    (hdefault : get blank = 0) :
    Describes ⟨name, .integer, get, (0 : Int64)⟩ (.integer name get set) :=
  describes_of_plain (d := ⟨name, .integer, get, (0 : Int64)⟩)
    (Field.lens_integer name hpart) rfl hdefault hplain fun _ _ => Json.asInt64_eq_ok_iff

theorem describes_text {get : E → String} {set : E → String → E}
    (hpart : Field.IsPart get set) (hplain : ∀ r ∈ revisions E, r.1 ≠ name)
    (hdefault : get blank = "") :
    Describes ⟨name, .text, get, ""⟩ (.text name get set) :=
  describes_of_plain (d := ⟨name, .text, get, ""⟩)
    (Field.lens_text name hpart) rfl hdefault hplain fun _ _ => Json.asText_eq_ok_iff

theorem describes_flag {get : E → Bool} {set : E → Bool → E} {default : Bool}
    (hpart : Field.IsPart get set) (hplain : ∀ r ∈ revisions E, r.1 ≠ name)
    (hdefault : get blank = default) :
    Describes ⟨name, .flag, get, default⟩ (.flag name get set) :=
  describes_of_plain (d := ⟨name, .flag, get, default⟩)
    (Field.lens_flag name hpart) rfl hdefault hplain fun _ _ => Json.asBool_eq_ok_iff

theorem describes_date [Distinct E] {get : E → Option Instant} {set : E → Option Instant → E}
    (hpart : Field.IsPart get set) (hdate : name ∈ dates E) (hdefault : get blank = none) :
    Describes ⟨name, .date, get, none⟩ (.instant name get set) := by
  have hrevision : (name, normalDate (Entity.name E) name) ∈ revisions E :=
    List.mem_append_left _ (List.mem_map_of_mem hdate)
  refine describes_of_lens (d := ⟨name, .date, get, none⟩) (Field.lens_instant name hpart) rfl
    hdefault (fun j hj v => ?_) ?_
  · rw [show (Field.instant name get set).name = name from rfl]
    simp only [normalValue_of_mem hrevision, normalDate_eq_ok_iff _ _ hj]
    constructor
    · rintro ⟨k, ⟨w, hw, rfl⟩, hread⟩
      rw [Field.asInstant_ofInstant] at hread
      exact Except.ok.inj hread ▸ hw
    · exact fun hv => ⟨_, ⟨v, hv, rfl⟩, Field.asInstant_ofInstant v⟩
  · exact ⟨.null, normalValue_of_mem hrevision .null, rfl⟩

theorem describes_owner {get : E → User} {set : E → User → E} [Distinct E]
    (hpart : Field.IsPart get set) (hrelation : Relation.to User name ∈ relations E)
    (hdefault : get blank = User.blank) :
    Describes ⟨name, .user, get, User.blank⟩ (.entity name get set) := by
  have hrevision : (name, normalize User) ∈ revisions E :=
    List.mem_append_right _ (List.mem_map_of_mem hrelation)
  refine describes_of_lens (d := ⟨name, .user, get, User.blank⟩) (Field.lens_entity name hpart) rfl
    hdefault (fun j hj u => ?_) ?_
  · rw [show (Field.entity name get set).name = name from rfl]
    simp only [normalValue_of_mem hrevision]
    exact User.exists_normalize_iff hj
  · have hblank : normalize User (json User.blank) = .ok (json User.blank) := by rfl
    have hvalue : normalValue E name (json User.blank) = .ok (json User.blank) :=
      (normalValue_of_mem hrevision _).trans hblank
    exact ⟨json User.blank, hvalue, rfl⟩

end Kinds

/-! ### Entities that hold what is given -/

section Fields

variable {ds : List (Declared E)} {fs : List (Field E)}

theorem forall_mem_iff_of_describes {P : Declared E → Prop} {Q : Field E → Prop}
    (h : List.Forall₂ Describes ds fs)
    (hiff : ∀ d, ∀ field ∈ fs, d.Describes field → (Q field ↔ P d)) :
    (∀ field ∈ fs, Q field) ↔ ∀ d ∈ ds, P d := by
  induction h with
  | nil => simp
  | cons hfirst _ ih =>
    rw [List.forall_mem_cons, List.forall_mem_cons]
    refine and_congr (hiff _ _ List.mem_cons_self hfirst) (ih ?_)
    exact fun d field hfield => hiff d field (List.mem_cons_of_mem _ hfield)

variable [Lawful E] [Distinct E] [Separate E]

theorem hydrate_eq_ok_iff_holds (h : List.Forall₂ Describes ds (fields (E := E))) {e : E} :
    hydrate raw = .ok e ↔ raw.IsRecord ∧ ∀ d ∈ ds, d.Holds raw e := by
  rw [hydrate_eq_ok_iff]
  refine and_congr_right fun _ => ?_
  exact forall_mem_iff_of_describes h fun d field _ hd => hd.holds_iff e

theorem exists_hydrate_iff_accepts (h : List.Forall₂ Describes ds (fields (E := E))) :
    (∃ e : E, hydrate raw = .ok e) ↔ raw.IsRecord ∧ ∀ d ∈ ds, d.Accepts raw := by
  rw [exists_hydrate_iff]
  refine and_congr_right fun _ => ?_
  exact forall_mem_iff_of_describes h fun d field hfield hd =>
    hd.exists_read_iff (Separate.faithful field hfield).lens

end Fields

end Declared

end MerchantApi
