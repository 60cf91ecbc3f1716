import MerchantApi.Proofs.Entity.RecordLanguage
/-!
# What entities write

A declared field writes the JSON value of what it holds, and different contents
have different values.  So an entity is known from what its declared fields
hold.
-/

namespace MerchantApi

namespace FieldType

def json : (type : FieldType) → type.Value → Json
  | .identifier => Json.ofUInt64
  | .integer => Json.ofInt64
  | .text => Json.string
  | .flag => Json.bool
  | .date => Field.ofInstant
  | .user => Entity.json

private theorem injective_of_read {T : Type} {write : T → Json}
    (read : Json → Except Json.Mismatch T) (h : ∀ v, read (write v) = .ok v) :
    Function.Injective write := by
  intro v w heq
  have hread := h v
  rw [heq, h w] at hread
  exact (Except.ok.inj hread).symm

theorem json_injective (type : FieldType) : Function.Injective type.json := by
  cases type with
  | identifier => exact injective_of_read Json.asUInt64 Json.asUInt64_ofUInt64
  | integer => exact injective_of_read Json.asInt64 Json.asInt64_ofInt64
  | text => exact injective_of_read Json.asText fun _ => rfl
  | flag => exact injective_of_read Json.asBool fun _ => rfl
  | date => exact injective_of_read Field.asInstant Field.asInstant_ofInstant
  | user => exact injective_of_read (Field.asEntity User) Entity.ofRecord_record

end FieldType

namespace EntityKind

open Entity

variable {kind : EntityKind} {d : Declared kind.Carrier} {a b e : kind.Carrier}

theorem record_eq (kind : EntityKind) (e : kind.Carrier) :
    record e = kind.declared.map fun d => (d.name, d.type.json (d.get e)) := by
  cases kind <;> rfl

theorem get?_record_declared (e : kind.Carrier) (hd : d ∈ kind.declared) :
    Members.get? (record e) d.name = some (d.type.json (d.get e)) := by
  apply (sorted_record e).get?_of_mem
  rw [record_eq]
  exact List.mem_map_of_mem hd

theorem get?_record_undeclared (e : kind.Carrier) {name : String}
    (hname : ∀ d ∈ kind.declared, d.name ≠ name) : Members.get? (record e) name = none := by
  rw [Members.get?_eq_none_iff, record_eq]
  intro value hmem
  obtain ⟨d, hd, heq⟩ := List.mem_map.1 hmem
  exact hname d hd (congrArg Prod.fst heq)

theorem get_blank (hd : d ∈ kind.declared) : d.get blank = d.default := by
  have hblank : hydrate (.object []) = .ok (blank : kind.Carrier) := by cases kind <;> rfl
  exact ((Declared.hydrate_eq_ok_iff_holds kind.describes).1 hblank).2 d hd

theorem eq_of_get_eq (h : ∀ d ∈ kind.declared, d.get a = d.get b) : a = b := by
  have hrecord : record a = record b := by
    rw [record_eq, record_eq]
    apply List.map_congr_left
    intro d hd
    rw [h d hd]
  have hread := ofRecord_record a
  rw [hrecord, ofRecord_record] at hread
  exact (Except.ok.inj hread).symm

/-- A field writes the same for two entities exactly when it holds the same. -/
theorem write_eq_iff (hd : d ∈ kind.declared) {field : Field kind.Carrier}
    (hfield : field ∈ fields (E := kind.Carrier)) (hname : field.name = d.name) :
    field.write a = field.write b ↔ d.get a = d.get b := by
  have hwrite : ∀ e : kind.Carrier, field.write e = d.type.json (d.get e) := by
    intro e
    have hget := get?_record e hfield
    rw [hname, get?_record_declared e hd] at hget
    exact (Option.some.inj hget).symm
  rw [hwrite, hwrite, d.type.json_injective.eq_iff]

end EntityKind

end MerchantApi
