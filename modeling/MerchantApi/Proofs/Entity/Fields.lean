import MerchantApi.Proofs.Entity.Lawful
/-!
# Fields as parts of an entity

A declared field ties a part of an entity to a JSON value.  Reading one field
leaves the others alone, so an entity is read from a record exactly when every
field of it has the value that the record has under its name.
-/

namespace MerchantApi

/-! ## Values that are read as they are written -/

namespace Json

theorem ofUInt64_of_asUInt64 {j : Json} {n : UInt64} (h : asUInt64 j = .ok n) :
    ofUInt64 n = j := by
  unfold asUInt64 at h
  split at h
  · rename_i w
    split at h
    · rename_i v hv
      obtain rfl : v = n := Except.ok.inj h
      unfold WideInt.toUInt64? at hv
      split at hv
      · rename_i hpos
        have hupper := w.upper
        obtain rfl := Option.some.inj hv
        have hval : ((UInt64.ofNat w.val.toNat).toNat : Int) = w.val := by
          rw [UInt64.toNat_ofNat_of_lt' (by simp only [UInt64.size]; omega)]
          omega
        simp only [ofUInt64, WideInt.ofUInt64, hval]
      · cases hv
    · cases h
  · cases h

theorem ofInt64_of_asInt64 {j : Json} {n : Int64} (h : asInt64 j = .ok n) :
    ofInt64 n = j := by
  unfold asInt64 at h
  split at h
  · rename_i w
    split at h
    · rename_i v hv
      obtain rfl : v = n := Except.ok.inj h
      unfold WideInt.toInt64? at hv
      split at hv
      · rename_i hupper
        have hlower := w.lower
        obtain rfl := Option.some.inj hv
        have hval : (Int64.ofInt w.val).toInt = w.val :=
          Int64.toInt_ofInt_of_le (by omega) (by omega)
        simp only [ofInt64, WideInt.ofInt64, hval]
      · cases hv
    · cases h
  · cases h

theorem string_of_asText {j : Json} {s : String} (h : asText j = .ok s) : .string s = j := by
  cases j <;> cases h
  rfl

theorem bool_of_asBool {j : Json} {b : Bool} (h : asBool j = .ok b) : .bool b = j := by
  cases j <;> cases h
  rfl

end Json

namespace Field

variable {E R T : Type} {field : Field E}

/-! ## Parts -/

structure IsPart (get : E → T) (set : E → T → E) : Prop where
  get_set : ∀ e v, get (set e v) = v
  set_get : ∀ e, set e (get e) = e

/-- A field that writes a part and reads it, and reads what it writes. -/
structure Lens (field : Field E) (get : E → T) (set : E → T → E)
    (ofJson : Json → Except Json.Mismatch T) (toJson : T → Json) : Prop
    extends IsPart get set where
  write_eq : ∀ e, field.write e = toJson (get e)
  read_eq : ∀ j e, field.read j e = (ofJson j).map (set e)
  of_to : ∀ v, ofJson (toJson v) = .ok v

def IsLens (field : Field E) : Prop :=
  ∃ (T : Type) (get : E → T) (set : E → T → E) (ofJson : Json → Except Json.Mismatch T)
    (toJson : T → Json), field.Lens get set ofJson toJson

section Lens

variable {get : E → T} {set : E → T → E} {ofJson : Json → Except Json.Mismatch T}
  {toJson : T → Json}

theorem Lens.read_eq_self_iff (h : field.Lens get set ofJson toJson) {j : Json} {e : E} :
    field.read j e = .ok e ↔ ofJson j = .ok (get e) := by
  rw [h.read_eq, Outcome.map_eq_ok_iff]
  constructor
  · rintro ⟨v, hv, he⟩
    have hget : get e = v := calc
      get e = get (set e v) := by rw [he]
      _ = v := h.get_set e v
    rw [hv, hget]
  · exact fun hv => ⟨get e, hv, h.set_get e⟩

end Lens

namespace IsLens

variable {j : Json} {x y : E}

theorem read_write (h : field.IsLens) (e : E) : field.read (field.write e) e = .ok e := by
  obtain ⟨T, get, set, ofJson, toJson, h⟩ := h
  rw [h.read_eq_self_iff, h.write_eq, h.of_to]

theorem read_again (h : field.IsLens) (hread : field.read j x = .ok y) :
    field.read j y = .ok y := by
  obtain ⟨T, get, set, ofJson, toJson, h⟩ := h
  rw [h.read_eq, Outcome.map_eq_ok_iff] at hread
  obtain ⟨v, hv, rfl⟩ := hread
  rw [h.read_eq_self_iff, hv, h.get_set]

/-- A value that an entity has already is read as the one that it writes. -/
theorem read_congr (h : field.IsLens) (hread : field.read j x = .ok x) (z : E) :
    field.read j z = field.read (field.write x) z := by
  obtain ⟨T, get, set, ofJson, toJson, h⟩ := h
  rw [h.read_eq_self_iff] at hread
  rw [h.read_eq, h.read_eq, hread, h.write_eq, h.of_to]

theorem exists_read (h : field.IsLens) (hread : field.read j x = .ok y) (z : E) :
    ∃ w, field.read j z = .ok w := by
  obtain ⟨T, get, set, ofJson, toJson, h⟩ := h
  rw [h.read_eq, Outcome.map_eq_ok_iff] at hread
  obtain ⟨v, hv, -⟩ := hread
  exact ⟨set z v, by rw [h.read_eq, hv]; rfl⟩

theorem read_error (h : field.IsLens) {cause : Json.Mismatch}
    (hread : field.read j x = .error cause) (z : E) : field.read j z = .error cause := by
  obtain ⟨T, get, set, ofJson, toJson, h⟩ := h
  rw [h.read_eq] at hread ⊢
  cases hof : ofJson j with
  | ok v =>
    rw [hof] at hread
    cases hread
  | error found =>
    rw [hof] at hread
    exact congrArg Except.error (Except.error.inj hread)

end IsLens

/-- Whether a field writes the same after another one was read. -/
def Apart (field other : Field E) : Prop :=
  ∀ j x y, other.read j x = .ok y → field.write y = field.write x

theorem apart_of_read {other : Field E} {set : E → T → E}
    {ofJson : Json → Except Json.Mismatch T}
    (hread : ∀ j x, other.read j x = (ofJson j).map (set x))
    (hwrite : ∀ x v, field.write (set x v) = field.write x) : field.Apart other := by
  intro j x y hy
  rw [hread, Outcome.map_eq_ok_iff] at hy
  obtain ⟨v, -, rfl⟩ := hy
  exact hwrite x v

/-- A field that reads and writes a part, and writes values of a kind as it read
them. -/
structure Faithful (field : Field E) (kind : Json → Prop) : Prop where
  lens : field.IsLens
  copies : ∀ j e, kind j → field.read j e = .ok e → field.write e = j

theorem Lens.faithful {get : E → T} {set : E → T → E} {ofJson : Json → Except Json.Mismatch T}
    {toJson : T → Json} (h : field.Lens get set ofJson toJson) {kind : Json → Prop}
    (hcopy : ∀ j v, kind j → ofJson j = .ok v → toJson v = j) : field.Faithful kind where
  lens := ⟨T, get, set, ofJson, toJson, h⟩
  copies j e hkind hread := by
    rw [h.write_eq]
    exact hcopy j (get e) hkind (h.read_eq_self_iff.1 hread)

/-! ### The kinds of fields -/

def asEntity (R : Type) [Entity R] : Json → Except Json.Mismatch R
  | .object members => Entity.ofRecord members
  | j => .error (.wrongType j (Entity.name R))

theorem read_entity [Entity R] (name : String) (get : E → R) (set : E → R → E) (j : Json) (e : E) :
    (entity name get set).read j e = (asEntity R j).map (set e) := by
  cases j <;> rfl

section Kinds

variable (name : String) {kind : Json → Prop}

theorem lens_identifier {get : E → UInt64} {set : E → UInt64 → E} (h : IsPart get set) :
    (identifier name get set).Lens get set Json.asUInt64 Json.ofUInt64 :=
  ⟨h, fun _ => rfl, fun _ _ => rfl, Json.asUInt64_ofUInt64⟩

theorem lens_integer {get : E → Int64} {set : E → Int64 → E} (h : IsPart get set) :
    (integer name get set).Lens get set Json.asInt64 Json.ofInt64 :=
  ⟨h, fun _ => rfl, fun _ _ => rfl, Json.asInt64_ofInt64⟩

theorem lens_text {get : E → String} {set : E → String → E} (h : IsPart get set) :
    (text name get set).Lens get set Json.asText Json.string :=
  ⟨h, fun _ => rfl, fun _ _ => rfl, fun _ => rfl⟩

theorem lens_flag {get : E → Bool} {set : E → Bool → E} (h : IsPart get set) :
    (flag name get set).Lens get set Json.asBool Json.bool :=
  ⟨h, fun _ => rfl, fun _ _ => rfl, fun _ => rfl⟩

theorem lens_instant {get : E → Option Instant} {set : E → Option Instant → E}
    (h : IsPart get set) : (instant name get set).Lens get set asInstant ofInstant :=
  ⟨h, fun _ => rfl, fun _ _ => rfl, asInstant_ofInstant⟩

theorem lens_entity [Entity R] [Entity.Lawful R] {get : E → R} {set : E → R → E}
    (h : IsPart get set) : (entity name get set).Lens get set (asEntity R) Entity.json :=
  ⟨h, fun _ => rfl, read_entity name get set, Entity.ofRecord_record⟩

theorem faithful_identifier {get : E → UInt64} {set : E → UInt64 → E} (h : IsPart get set) :
    (identifier name get set).Faithful kind :=
  (lens_identifier name h).faithful fun _ _ _ => Json.ofUInt64_of_asUInt64

theorem faithful_integer {get : E → Int64} {set : E → Int64 → E} (h : IsPart get set) :
    (integer name get set).Faithful kind :=
  (lens_integer name h).faithful fun _ _ _ => Json.ofInt64_of_asInt64

theorem faithful_text {get : E → String} {set : E → String → E} (h : IsPart get set) :
    (text name get set).Faithful kind :=
  (lens_text name h).faithful fun _ _ _ => Json.string_of_asText

theorem faithful_flag {get : E → Bool} {set : E → Bool → E} (h : IsPart get set) :
    (flag name get set).Faithful kind :=
  (lens_flag name h).faithful fun _ _ _ => Json.bool_of_asBool

/-- Instants are copied only as they are written. -/
theorem faithful_instant {get : E → Option Instant} {set : E → Option Instant → E}
    (h : IsPart get set) (hkind : ∀ j, kind j → ∃ t, j = ofInstant t) :
    (instant name get set).Faithful kind := by
  refine (lens_instant name h).faithful fun j v hj hread => ?_
  obtain ⟨t, rfl⟩ := hkind j hj
  rw [asInstant_ofInstant] at hread
  exact congrArg ofInstant (Except.ok.inj hread).symm

/-- Nothing is promised of how entities are copied. -/
theorem faithful_entity [Entity R] [Entity.Lawful R] {get : E → R} {set : E → R → E}
    (h : IsPart get set) (hkind : ∀ j, ¬ kind j) : (entity name get set).Faithful kind :=
  (lens_entity name h).faithful fun j _ hj => absurd hj (hkind j)

end Kinds

end Field

namespace Entity

/-- Whether a value is one that a field writes back: a date as instants are
written, any value that is neither a date nor a relation. -/
def Settled (E : Type) [Entity E] (name : String) (j : Json) : Prop :=
  (∀ relation ∈ relations E, relation.field ≠ name) ∧
    (name ∈ dates E → ∃ t, j = Field.ofInstant t)

class Separate (E : Type) [Entity E] : Prop where
  faithful : ∀ field ∈ fields (E := E), field.Faithful (Settled E field.name)
  apart : (fields (E := E)).Pairwise Field.Apart

section Separate

variable {E : Type} [Entity E] [Separate E]

theorem read_of_foldlM {fs : List (Field E)} (hfs : ∀ field ∈ fs, field ∈ fields (E := E))
    (hapart : fs.Pairwise Field.Apart) {value : Field E → Except Json.Mismatch Json} {x e : E}
    (hfold : fs.foldlM (fun e field => value field >>= fun j => field.read j e) x = .ok e) :
    (∀ field ∈ fs, ∃ j, value field = .ok j ∧ field.read j e = .ok e) ∧
      ∀ field : Field E, (∀ other ∈ fs, field.Apart other) → field.write e = field.write x := by
  induction fs generalizing x with
  | nil =>
    obtain rfl := Except.ok.inj hfold
    exact ⟨nofun, fun _ _ => rfl⟩
  | cons first fs ih =>
    rw [List.foldlM_cons, Outcome.bind_eq_ok_iff] at hfold
    obtain ⟨y, hfirst, hrest⟩ := hfold
    obtain ⟨j, hj, hread⟩ := Outcome.bind_eq_ok_iff.1 hfirst
    obtain ⟨hlater, hkept⟩ :=
      ih (fun field hfield => hfs field (List.mem_cons_of_mem _ hfield)) hapart.of_cons hrest
    have hlens := (Separate.faithful first (hfs first List.mem_cons_self)).lens
    constructor
    · refine List.forall_mem_cons.2 ⟨⟨j, hj, ?_⟩, hlater⟩
      -- The fields after the first one leave alone what it has read.
      have hwrite : first.write e = first.write y :=
        hkept first fun other => List.rel_of_pairwise_cons hapart
      rw [hlens.read_congr (hlens.read_again hread), ← hwrite]
      exact hlens.read_write e
    · intro field hfield
      obtain ⟨hhead, htail⟩ := List.forall_mem_cons.1 hfield
      rw [hkept field htail]
      exact hhead j x y hread

omit [Separate E] in
theorem ofRecord_eq_foldlM (members : Members Json) :
    (ofRecord members : Except Json.Mismatch E) =
      (fields (E := E)).foldlM (fun e field =>
        (match Members.get? members field.name with
          | some j => .ok j
          | none => .error (.missing field.name)) >>= fun j => field.read j e) blank := by
  rw [ofRecord]
  refine Outcome.foldlM_congr (fun e field _ => ?_) blank
  cases Members.get? members field.name <;> rfl

theorem ofRecord_eq_ok_iff [Lawful E] {members : Members Json} {e : E} :
    ofRecord members = .ok e ↔ ∀ field ∈ fields (E := E), ∃ j,
      Members.get? members field.name = some j ∧ field.read j e = .ok e := by
  constructor
  · intro h field hfield
    rw [ofRecord_eq_foldlM] at h
    obtain ⟨j, hj, hread⟩ :=
      (read_of_foldlM (fun _ hmem => hmem) Separate.apart h).1 field hfield
    split at hj
    · rename_i value hvalue
      obtain rfl : value = j := Except.ok.inj hj
      exact ⟨value, hvalue, hread⟩
    · cases hj
  · intro h
    rw [ofRecord]
    refine (Outcome.foldlM_congr (fun x field hfield => ?_) blank).trans (Lawful.reads_back e)
    obtain ⟨j, hj, hread⟩ := h field hfield
    rw [hj]
    exact (Separate.faithful field hfield).lens.read_congr hread x

/-- Some entity is read from a record exactly when the record has a value for
every field that the field can read. -/
theorem exists_ofRecord_iff {members : Members Json} :
    (∃ e : E, ofRecord members = .ok e) ↔ ∀ field ∈ fields (E := E), ∃ j x,
      Members.get? members field.name = some j ∧ field.read j blank = .ok x := by
  have hstep : ∀ field ∈ fields (E := E), ∀ x y : E, ∀ z,
      (match Members.get? members field.name with
        | some j => field.read j x
        | none => .error (.missing field.name)) = .ok z →
      ∃ w, (match Members.get? members field.name with
        | some j => field.read j y
        | none => .error (.missing field.name)) = .ok w := by
    intro field hfield x y z hz
    cases hget : Members.get? members field.name with
    | none =>
      rw [hget] at hz
      cases hz
    | some j =>
      rw [hget] at hz
      exact (Separate.faithful field hfield).lens.exists_read hz y
  rw [show (∃ e : E, ofRecord members = .ok e) ↔ _ from Outcome.exists_foldlM_eq_ok_iff hstep]
  refine forall₂_congr fun field _ => ?_
  cases hget : Members.get? members field.name with
  | none => simp
  | some j => simp

end Separate

/-! ## Users, merchants and mappings -/

instance : Separate User where
  faithful := by
    simp only [fields, User.fields, List.forall_mem_cons, List.not_mem_nil, IsEmpty.forall_iff,
      implies_true, and_true]
    exact ⟨Field.faithful_instant _ ⟨fun _ _ => rfl, fun _ => rfl⟩ fun _ hj => hj.2 (by decide),
      Field.faithful_text _ ⟨fun _ _ => rfl, fun _ => rfl⟩,
      Field.faithful_identifier _ ⟨fun _ _ => rfl, fun _ => rfl⟩,
      Field.faithful_text _ ⟨fun _ _ => rfl, fun _ => rfl⟩,
      Field.faithful_instant _ ⟨fun _ _ => rfl, fun _ => rfl⟩ fun _ hj => hj.2 (by decide),
      Field.faithful_text _ ⟨fun _ _ => rfl, fun _ => rfl⟩⟩
  apart := by
    simp only [fields, User.fields, List.pairwise_cons, List.forall_mem_cons, List.not_mem_nil,
      IsEmpty.forall_iff, implies_true, and_true, List.Pairwise.nil]
    and_intros
    all_goals exact Field.apart_of_read (fun _ _ => rfl) fun _ _ => rfl

instance : Separate Mapping where
  faithful := by
    simp only [fields, Mapping.fields, List.forall_mem_cons, List.not_mem_nil, IsEmpty.forall_iff,
      implies_true, and_true]
    exact ⟨Field.faithful_instant _ ⟨fun _ _ => rfl, fun _ => rfl⟩ fun _ hj => hj.2 (by decide),
      Field.faithful_text _ ⟨fun _ _ => rfl, fun _ => rfl⟩,
      Field.faithful_text _ ⟨fun _ _ => rfl, fun _ => rfl⟩,
      Field.faithful_identifier _ ⟨fun _ _ => rfl, fun _ => rfl⟩,
      Field.faithful_flag _ ⟨fun _ _ => rfl, fun _ => rfl⟩,
      Field.faithful_integer _ ⟨fun _ _ => rfl, fun _ => rfl⟩,
      Field.faithful_text _ ⟨fun _ _ => rfl, fun _ => rfl⟩,
      Field.faithful_instant _ ⟨fun _ _ => rfl, fun _ => rfl⟩ fun _ hj => hj.2 (by decide)⟩
  apart := by
    simp only [fields, Mapping.fields, List.pairwise_cons, List.forall_mem_cons, List.not_mem_nil,
      IsEmpty.forall_iff, implies_true, and_true, List.Pairwise.nil]
    and_intros
    all_goals exact Field.apart_of_read (fun _ _ => rfl) fun _ _ => rfl

instance : Separate Merchant where
  faithful := by
    simp only [fields, Merchant.fields, List.forall_mem_cons, List.not_mem_nil, IsEmpty.forall_iff,
      implies_true, and_true]
    exact ⟨Field.faithful_text _ ⟨fun _ _ => rfl, fun _ => rfl⟩,
      Field.faithful_text _ ⟨fun _ _ => rfl, fun _ => rfl⟩,
      Field.faithful_instant _ ⟨fun _ _ => rfl, fun _ => rfl⟩ fun _ hj => hj.2 (by decide),
      Field.faithful_text _ ⟨fun _ _ => rfl, fun _ => rfl⟩,
      Field.faithful_text _ ⟨fun _ _ => rfl, fun _ => rfl⟩,
      Field.faithful_identifier _ ⟨fun _ _ => rfl, fun _ => rfl⟩,
      Field.faithful_text _ ⟨fun _ _ => rfl, fun _ => rfl⟩,
      Field.faithful_entity _ ⟨fun _ _ => rfl, fun _ => rfl⟩ fun _ hj =>
        hj.1 _ (List.mem_singleton_self _) rfl,
      Field.faithful_text _ ⟨fun _ _ => rfl, fun _ => rfl⟩,
      Field.faithful_text _ ⟨fun _ _ => rfl, fun _ => rfl⟩,
      Field.faithful_text _ ⟨fun _ _ => rfl, fun _ => rfl⟩,
      Field.faithful_text _ ⟨fun _ _ => rfl, fun _ => rfl⟩,
      Field.faithful_instant _ ⟨fun _ _ => rfl, fun _ => rfl⟩ fun _ hj => hj.2 (by decide),
      Field.faithful_text _ ⟨fun _ _ => rfl, fun _ => rfl⟩⟩
  apart := by
    simp only [fields, Merchant.fields, List.pairwise_cons, List.forall_mem_cons, List.not_mem_nil,
      IsEmpty.forall_iff, implies_true, and_true, List.Pairwise.nil]
    and_intros
    all_goals first
      | exact Field.apart_of_read (fun _ _ => rfl) fun _ _ => rfl
      | exact Field.apart_of_read (Field.read_entity _ _ _) fun _ _ => rfl

end Entity

end MerchantApi
