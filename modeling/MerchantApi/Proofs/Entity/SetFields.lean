import MerchantApi.Proofs.Entity.Scalars
import MerchantApi.Proofs.Entity.Written
/-!
# Entities and their filters

The filters that an entity gives are the parameters in which it differs from
the blank one.  The text of a scalar tells it from all others of its type, so
filters determine all of an entity but the entities in it.
-/

namespace MerchantApi

/-! ## Texts of scalars -/

private theorem WideInt.chars_injective : Function.Injective chars := by
  have hdigits : ∀ {m n : Nat}, Nat.toDigits 10 m = Nat.toDigits 10 n → m = n := by
    intro m n h
    rw [← Nat.ofDigitChars_ten_toDigits (n := m), h, Nat.ofDigitChars_ten_toDigits]
  have hsign : ∀ {m n : Nat}, '-' :: Nat.toDigits 10 m ≠ Nat.toDigits 10 n := by
    intro m n h
    have hdash : '-' ∈ Nat.toDigits 10 n := h ▸ List.mem_cons_self
    exact absurd (Nat.isDigit_of_mem_toDigits (by decide) (by decide) hdash) (by decide)
  intro a b h
  have hval : a.val = b.val := by
    unfold chars at h
    by_cases ha : a.val < 0
    · by_cases hb : b.val < 0
      · rw [if_pos ha, if_pos hb] at h
        have habs := hdigits (List.cons.inj h).2
        omega
      · rw [if_pos ha, if_neg hb] at h
        exact absurd h hsign
    · by_cases hb : b.val < 0
      · rw [if_neg ha, if_pos hb] at h
        exact absurd h.symm hsign
      · rw [if_neg ha, if_neg hb] at h
        have habs := hdigits h
        omega
  cases a
  cases b
  rw [WideInt.mk.injEq]
  exact hval

private theorem Json.scalarText?_int_injective :
    Function.Injective fun n => (number (.int n)).scalarText? := by
  intro a b h
  exact WideInt.chars_injective (String.ofList_injective (Option.some.inj h))

namespace FieldType

def shown? (type : FieldType) (v : type.Value) : Option String := (type.json v).scalarText?

variable {type : FieldType} {v w : type.Value}

theorem shown?_injective (htype : type ≠ .user) : Function.Injective type.shown? := by
  intro v w h
  cases type with
  | identifier =>
    have hwide : WideInt.ofUInt64 v = .ofUInt64 w := Json.scalarText?_int_injective h
    rw [WideInt.ofUInt64, WideInt.ofUInt64, WideInt.mk.injEq, Int.natCast_inj] at hwide
    exact UInt64.toNat_inj.1 hwide
  | integer =>
    have hwide : WideInt.ofInt64 v = .ofInt64 w := Json.scalarText?_int_injective h
    rw [WideInt.ofInt64, WideInt.ofInt64, WideInt.mk.injEq] at hwide
    exact Int64.toInt_inj.1 hwide
  | text => exact Option.some.inj h
  | flag =>
    change Bool at v w
    cases v <;> cases w <;> first | rfl | exact absurd (Option.some.inj h) (by decide)
  | date =>
    change Option Instant at v w
    cases v with
    | none =>
      cases w with
      | none => rfl
      | some t => cases h
    | some s =>
      cases w with
      | none => cases h
      | some t => exact congrArg some (Instant.text_injective (Option.some.inj h))
  | user => exact absurd rfl htype

private theorem shown?_of_eq_user (htype : type = .user) : type.shown? v = none := by
  subst htype
  rfl

theorem json_eq_null_of_shown? (htype : type ≠ .user) (h : type.shown? v = none) :
    type.json v = .null := by
  cases type with
  | date =>
    change Option Instant at v
    cases v with
    | none => rfl
    | some t => cases h
  | user => exact absurd rfl htype
  | _ => cases h

end FieldType

namespace EntityKind

open Entity

variable {kind : EntityKind} {d : Declared kind.Carrier}

/-! ## Filters -/

/-- Only values other than the default of their field filter. -/
theorem get?_setFields (e : kind.Carrier) (hd : d ∈ kind.declared) :
    Members.get? (setFields e) d.name =
      if d.type.json (d.get e) = d.type.json d.default then none else d.type.shown? (d.get e) := by
  have hfiltered := (sorted_record e).filter fun member =>
    Members.get? (record (blank : kind.Carrier)) member.1 ≠ some member.2
  rw [setFields, Json.get?_scalars hfiltered, (sorted_record e).get?_filter,
    get?_record_declared e hd, Option.filter_some, get?_record_declared blank hd, get_blank hd]
  by_cases hsame : d.type.json (d.get e) = d.type.json d.default
  · simp [hsame]
  · simp [hsame, Ne.symm hsame, FieldType.shown?]

theorem get?_params_declared (e : kind.Carrier) (hd : d ∈ kind.declared) :
    Members.get? (params e) d.name = d.type.shown? (d.get e) := by
  rw [get?_params, get?_record_declared e hd]
  rfl

theorem shown?_eq_of_get?_setFields {e : kind.Carrier} (hd : d ∈ kind.declared) {text : String}
    (h : Members.get? (setFields e) d.name = some text) :
    d.type.shown? (d.get e) = some text := by
  rw [get?_setFields e hd] at h
  by_cases hsame : d.type.json (d.get e) = d.type.json d.default
  · rw [if_pos hsame] at h
    cases h
  · rwa [if_neg hsame] at h

/-- A scalar that has no text is a date of the blank entity. -/
theorem eq_default_of_shown? {e : kind.Carrier} (hd : d ∈ kind.declared) (htype : d.type ≠ .user)
    (h : d.type.shown? (d.get e) = none) : d.get e = d.default := by
  have hnull := FieldType.json_eq_null_of_shown? htype h
  have hdate : d.name ∈ dates kind.Carrier :=
    (Entity.normalForm_record e).null_date d.name (hnull ▸ get?_record_declared e hd)
  have hblank := Lawful.blank_dates d.name hdate
  rw [get?_record_declared blank hd, get_blank hd] at hblank
  exact d.type.json_injective (hnull.trans (Option.some.inj hblank).symm)

theorem get?_setFields_eq_none_iff {e : kind.Carrier} (hd : d ∈ kind.declared)
    (htype : d.type ≠ .user) :
    Members.get? (setFields e) d.name = none ↔ d.get e = d.default := by
  rw [get?_setFields e hd]
  constructor
  · intro h
    by_cases hsame : d.type.json (d.get e) = d.type.json d.default
    · exact d.type.json_injective hsame
    · rw [if_neg hsame] at h
      exact eq_default_of_shown? hd htype h
  · intro h
    rw [if_pos (congrArg d.type.json h)]

private theorem get?_setFields_user {e : kind.Carrier} (hd : d ∈ kind.declared)
    (htype : d.type = .user) :
    Members.get? (setFields e) d.name = none := by
  rw [get?_setFields e hd, FieldType.shown?_of_eq_user htype, ite_self]

theorem get?_setFields_undeclared (e : kind.Carrier) {name : String}
    (hname : ∀ d ∈ kind.declared, d.name ≠ name) : Members.get? (setFields e) name = none := by
  have hfiltered := (sorted_record e).filter fun member =>
    Members.get? (record (blank : kind.Carrier)) member.1 ≠ some member.2
  rw [setFields, Json.get?_scalars hfiltered, (sorted_record e).get?_filter,
    get?_record_undeclared e hname]
  rfl

def SameScalars (kind : EntityKind) (a b : kind.Carrier) : Prop :=
  ∀ d ∈ kind.declared, d.type ≠ .user → d.get a = d.get b

theorem setFields_eq_iff (a b : kind.Carrier) :
    setFields a = setFields b ↔ kind.SameScalars a b := by
  constructor
  · intro h d hd htype
    cases hget : Members.get? (setFields a) d.name with
    | none =>
      have hb : Members.get? (setFields b) d.name = none := h ▸ hget
      rw [(get?_setFields_eq_none_iff hd htype).1 hget, (get?_setFields_eq_none_iff hd htype).1 hb]
    | some text =>
      have hb : Members.get? (setFields b) d.name = some text := h ▸ hget
      apply FieldType.shown?_injective htype
      rw [shown?_eq_of_get?_setFields hd hget, shown?_eq_of_get?_setFields hd hb]
  · intro h
    apply (sorted_setFields a).ext (sorted_setFields b)
    intro name
    by_cases hdeclared : ∃ d ∈ kind.declared, d.name = name
    · obtain ⟨d, hd, rfl⟩ := hdeclared
      by_cases htype : d.type = .user
      · rw [get?_setFields_user hd htype, get?_setFields_user hd htype]
      · rw [get?_setFields a hd, get?_setFields b hd, h d hd htype]
    · have hname : ∀ d ∈ kind.declared, d.name ≠ name := fun d hd heq => hdeclared ⟨d, hd, heq⟩
      rw [get?_setFields_undeclared a hname, get?_setFields_undeclared b hname]

theorem setFields_eq_filter (e : kind.Carrier) :
    setFields e = (params e).filter fun pair => pair ∉ params (blank : kind.Carrier) := by
  have hsorted : ∀ x : kind.Carrier, (params x).Sorted := fun x =>
    Json.sorted_scalars (sorted_record x)
  apply (sorted_setFields e).ext ((hsorted e).filter _)
  intro name
  rw [(hsorted e).get?_filter]
  by_cases hdeclared : ∃ d ∈ kind.declared, d.name = name
  · obtain ⟨d, hd, rfl⟩ := hdeclared
    have hblank : ∀ text, (d.name, text) ∈ params (blank : kind.Carrier) ↔
        d.type.shown? d.default = some text := by
      intro text
      rw [← (hsorted blank).get?_eq_some_iff, get?_params_declared blank hd, get_blank hd]
    rw [get?_params_declared e hd]
    simp only [hblank]
    cases hshown : d.type.shown? (d.get e) with
    | none => rw [get?_setFields e hd, hshown, ite_self, Option.filter_none]
    | some text =>
      have htype : d.type ≠ .user := by
        intro htype
        rw [FieldType.shown?_of_eq_user htype] at hshown
        cases hshown
      rw [Option.filter_some]
      by_cases hsame : d.get e = d.default
      · rw [(get?_setFields_eq_none_iff hd htype).2 hsame, ← hsame, hshown]
        simp
      · have hdiffers : d.type.shown? d.default ≠ some text := fun h =>
          hsame (FieldType.shown?_injective htype (hshown.trans h.symm))
        rw [get?_setFields e hd, if_neg (mt (fun h => d.type.json_injective h) hsame), hshown]
        simp [hdiffers]
  · have hname : ∀ d ∈ kind.declared, d.name ≠ name := fun d hd heq => hdeclared ⟨d, hd, heq⟩
    rw [get?_setFields_undeclared e hname, get?_params, get?_record_undeclared e hname]
    rfl

/-- The filters of an entity are its parameters without those of the blank
entity.  Entities have the same filters exactly when they have the same
scalars, so only the scalars of the blank entity give no filter. -/
theorem setFields_determine_scalars (kind : EntityKind) :
    (∀ e : kind.Carrier, setFields e =
      (params e).filter fun pair => pair ∉ params (blank : kind.Carrier)) ∧
    (∀ a b : kind.Carrier, setFields a = setFields b ↔ kind.SameScalars a b) ∧
    ∀ e : kind.Carrier, setFields e = [] ↔ kind.SameScalars e blank := by
  refine ⟨setFields_eq_filter, setFields_eq_iff, fun e => ?_⟩
  have hblank : setFields (blank : kind.Carrier) = [] := by
    rw [setFields_eq_filter, List.filter_eq_nil_iff]
    intro pair hpair
    simpa using hpair
  rw [← setFields_eq_iff, hblank]

example : setFields { Mapping.blank with id := 2 ^ 64 - 1, labelId := -1, isActive := false } =
    [("id", "18446744073709551615"), ("is_active", "false"), ("label_id", "-1")] := by
  decide +kernel

end EntityKind

end MerchantApi
