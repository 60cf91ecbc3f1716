import MerchantApi.Mapping
import MerchantApi.Merchant
import MerchantApi.Proofs.Instant
import MerchantApi.Proofs.Members
import MerchantApi.Proofs.Outcome
/-!
# Lawful descriptions of entities

A description of an entity type is lawful when its fields are in order, only
dates are ever null, relations are declared, and an entity is read back from
its own record.  The descriptions of users, merchants and mappings are lawful,
so that what follows from the laws holds for all three.
-/

namespace MerchantApi

/-! ## Fields are read back -/

namespace Json

theorem asUInt64_ofUInt64 (n : UInt64) : asUInt64 (.ofUInt64 n) = .ok n := by
  have hread : (WideInt.ofUInt64 n).toUInt64? = some n := by
    rw [WideInt.toUInt64?, WideInt.ofUInt64, if_pos (by simp)]
    simp
  simp only [asUInt64, ofUInt64, hread]

theorem asInt64_ofInt64 (n : Int64) : asInt64 (.ofInt64 n) = .ok n := by
  have hread : (WideInt.ofInt64 n).toInt64? = some n := by
    have hupper : n.toInt < 0x8000000000000000 := n.toInt_lt
    rw [WideInt.toInt64?, WideInt.ofInt64, if_pos hupper]
    simp
  simp only [asInt64, ofInt64, hread]

end Json

namespace Field

variable {E R : Type}

theorem read_write_identifier (name : String) (get : E → UInt64) (set : E → UInt64 → E)
    (e x : E) : (identifier name get set).read ((identifier name get set).write e) x =
      .ok (set x (get e)) := by
  simp only [identifier, Json.asUInt64_ofUInt64, Except.map]

theorem read_write_integer (name : String) (get : E → Int64) (set : E → Int64 → E)
    (e x : E) : (integer name get set).read ((integer name get set).write e) x =
      .ok (set x (get e)) := by
  simp only [integer, Json.asInt64_ofInt64, Except.map]

theorem read_write_text (name : String) (get : E → String) (set : E → String → E)
    (e x : E) : (text name get set).read ((text name get set).write e) x =
      .ok (set x (get e)) := rfl

theorem read_write_flag (name : String) (get : E → Bool) (set : E → Bool → E)
    (e x : E) : (flag name get set).read ((flag name get set).write e) x =
      .ok (set x (get e)) := rfl

theorem asInstant_ofInstant (t : Option Instant) : asInstant (ofInstant t) = .ok t := by
  cases t with
  | none => rfl
  | some t => simp only [ofInstant, asInstant, Instant.parse_extended_text]

theorem read_write_instant (name : String) (get : E → Option Instant)
    (set : E → Option Instant → E) (e x : E) :
    (instant name get set).read ((instant name get set).write e) x = .ok (set x (get e)) := by
  simp only [instant, asInstant_ofInstant, Except.map]

theorem read_write_entity [Entity R] (name : String) (get : E → R) (set : E → R → E)
    (e x : E) (h : Entity.ofRecord (Entity.record (get e)) = .ok (get e)) :
    (entity name get set).read ((entity name get set).write e) x = .ok (set x (get e)) := by
  simp only [entity, Entity.json, h, Except.map]

def IsDate (field : Field E) : Prop := ∃ get : E → Option Instant, ∀ e,
  field.write e = ofInstant (get e)

def IsValue (field : Field E) : Prop := ∀ e, field.write e ≠ .null

section Kinds

variable (name : String)

theorem isDate_instant (get : E → Option Instant) (set : E → Option Instant → E) :
    (instant name get set).IsDate := ⟨get, fun _ => rfl⟩

theorem isValue_identifier (get : E → UInt64) (set : E → UInt64 → E) :
    (identifier name get set).IsValue := fun _ => Json.noConfusion

theorem isValue_integer (get : E → Int64) (set : E → Int64 → E) :
    (integer name get set).IsValue := fun _ => Json.noConfusion

theorem isValue_text (get : E → String) (set : E → String → E) :
    (text name get set).IsValue := fun _ => Json.noConfusion

theorem isValue_flag (get : E → Bool) (set : E → Bool → E) :
    (flag name get set).IsValue := fun _ => Json.noConfusion

theorem isValue_entity [Entity R] (get : E → R) (set : E → R → E) :
    (entity name get set).IsValue := fun _ => Json.noConfusion

end Kinds

end Field

/-! ## The laws -/

namespace Entity

class Lawful (E : Type) [Entity E] : Prop where
  /-- The fields are in increasing order of their names. -/
  ordered : (fields (E := E)).Pairwise fun a b => a.name < b.name
  /-- The fields of the names of dates hold optional instants. -/
  date_fields : ∀ field ∈ fields (E := E), field.name ∈ dates E → field.IsDate
  /-- All other fields have values. -/
  value_fields : ∀ field ∈ fields (E := E), field.name ∉ dates E → field.IsValue
  /-- Dates are declared, and the blank entity has none. -/
  blank_dates : ∀ name ∈ dates E, Members.get? (record (blank : E)) name = some .null
  /-- Relations are declared, and they are no dates. -/
  declared_relations : ∀ relation ∈ relations E, relation.field ∉ dates E ∧
    (Members.get? (record (blank : E)) relation.field).isSome
  /-- No two relations share a field. -/
  distinct_relations : (relations E).Pairwise fun a b => a.field ≠ b.field
  /-- The normal form of a relation is not null. -/
  value_relations : ∀ relation ∈ relations E, ∀ raw, relation.normalize raw ≠ .ok .null
  /-- Every field reads back what it writes. -/
  reads_back : ∀ e : E, (fields (E := E)).foldlM (fun x field => field.read (field.write e) x)
    blank = .ok e

section Lawful

variable {E : Type} [Entity E]

theorem field_of_get?_record {e : E} {name : String} {value : Json}
    (h : Members.get? (record e) name = some value) :
    ∃ field ∈ fields (E := E), field.name = name ∧ field.write e = value := by
  obtain ⟨field, hfield, heq⟩ := List.mem_map.1 (Members.mem_of_get? h)
  cases heq
  exact ⟨field, hfield, rfl, rfl⟩

variable [Lawful E]

theorem sorted_record (e : E) : (record e).Sorted := by
  rw [record, Members.Sorted, List.pairwise_map]
  exact Lawful.ordered

theorem get?_record (e : E) {field : Field E} (hfield : field ∈ fields (E := E)) :
    Members.get? (record e) field.name = some (field.write e) :=
  (sorted_record e).get?_of_mem (List.mem_map_of_mem hfield)

theorem ofRecord_record (e : E) : ofRecord (record e) = .ok e := by
  rw [ofRecord]
  refine (Outcome.foldlM_congr (fun x field hfield => ?_) blank).trans (Lawful.reads_back e)
  rw [get?_record e hfield]

end Lawful

/-! ## Users, merchants and mappings -/

theorem normalize_ne_null (E : Type) [Entity E] (raw : Json) : normalize E raw ≠ .ok .null := by
  rw [normalize]
  cases normalMembers E raw with
  | error e => simp [Except.map]
  | ok members => simp [Except.map]

instance : Lawful User where
  ordered := by decide
  date_fields := by
    simp [fields, User.fields, dates, Field.isDate_instant, Field.text, Field.identifier]
  value_fields := by
    simp [fields, User.fields, dates, Field.isValue_text, Field.isValue_identifier, Field.instant]
  blank_dates := by decide
  declared_relations := by simp [relations]
  distinct_relations := List.Pairwise.nil
  value_relations := by simp [relations]
  reads_back e := by
    simp only [fields, User.fields, List.foldlM_cons, List.foldlM_nil, Field.read_write_instant,
      Field.read_write_text, Field.read_write_identifier]
    rfl

instance : Lawful Mapping where
  ordered := by decide
  date_fields := by
    simp [fields, Mapping.fields, dates, Field.isDate_instant, Field.text, Field.identifier,
      Field.flag, Field.integer]
  value_fields := by
    simp [fields, Mapping.fields, dates, Field.isValue_text, Field.isValue_identifier,
      Field.isValue_flag, Field.isValue_integer, Field.instant]
  blank_dates := by decide
  declared_relations := by simp [relations]
  distinct_relations := List.Pairwise.nil
  value_relations := by simp [relations]
  reads_back e := by
    simp only [fields, Mapping.fields, List.foldlM_cons, List.foldlM_nil,
      Field.read_write_instant, Field.read_write_text, Field.read_write_identifier,
      Field.read_write_flag, Field.read_write_integer]
    rfl

instance : Lawful Merchant where
  ordered := by decide
  date_fields := by
    simp [fields, Merchant.fields, dates, Field.isDate_instant, Field.text, Field.identifier,
      Field.entity]
  value_fields := by
    simp [fields, Merchant.fields, dates, Field.isValue_text, Field.isValue_identifier,
      Field.isValue_entity, Field.instant]
  blank_dates := by decide
  declared_relations := by
    rintro relation (_ | ⟨_, ⟨⟩⟩)
    exact ⟨by decide, rfl⟩
  distinct_relations := List.pairwise_singleton _ _
  value_relations := by
    rintro relation (_ | ⟨_, ⟨⟩⟩) raw
    exact normalize_ne_null User raw
  reads_back m := by
    have howner := ofRecord_record m.owner
    simp only [fields, Merchant.fields, List.foldlM_cons, List.foldlM_nil,
      Field.read_write_instant, Field.read_write_text, Field.read_write_identifier,
      Field.read_write_entity "owner" Merchant.owner _ m _ howner]
    rfl

end Entity

end MerchantApi
