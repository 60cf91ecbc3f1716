import MerchantApi.Proofs.Entity.RecordLanguage
import MerchantApi.Proofs.Instant.Stamp
/-!
# Dates of records

A record has its dates at places that a path of names leads to, those of an
owner one name deeper than its own.  Milliseconds and time stamps that are given
there are read exactly, whatever else the record holds: hydration yields what it
yields for the record without the date, with the moment put in.
-/

namespace MerchantApi

open Entity

/-! ## Paths into records -/

namespace Json

def givenAt? : Json → List String → Option Json
  | raw, [] => some raw
  | raw, name :: path => (raw.given? name).bind (givenAt? · path)

/-- A record that gives nothing where a path leads to, and else what it gave. -/
def without : Json → List String → Json
  | .object members, [name] => .object (members.filter fun member => member.1 ≠ name)
  | .object members, name :: path => .object (members.map fun member =>
      (member.1, if member.1 = name then member.2.without path else member.2))
  | j, _ => j

variable {raw : Json} {name other : String} {path : List String}

private theorem isObject_of_givenAt? (hpath : path ≠ []) {j : Json}
    (h : raw.givenAt? path = some j) : ∃ members, raw = .object members := by
  obtain ⟨name, rest, rfl⟩ := List.exists_cons_of_ne_nil hpath
  cases raw with
  | object members => exact ⟨members, rfl⟩
  | _ => cases h

private theorem isObject_without (h : ∃ members, raw = .object members) (path : List String) :
    ∃ members, raw.without path = .object members := by
  obtain ⟨members, rfl⟩ := h
  match path with
  | [] => exact ⟨members, rfl⟩
  | [_] => exact ⟨_, rfl⟩
  | _ :: _ :: _ => exact ⟨_, rfl⟩

private theorem isNull_without (raw : Json) (path : List String) :
    (raw.without path).isNull = raw.isNull := by
  match raw, path with
  | .object members, [] => rfl
  | .object members, [_] => rfl
  | .object members, _ :: _ :: _ => rfl
  | .null, _ | .bool _, _ | .number _, _ | .string _, _ | .array _, _ => simp [without]

private theorem given?_without_singleton (raw : Json) (name other : String) :
    (raw.without [name]).given? other = if other = name then none else raw.given? other := by
  cases raw with
  | object members =>
    have hsplit : (members.filter fun member => member.1 ≠ name).filter (!·.2.isNull) =
        (members.filter (!·.2.isNull)).filter fun member => decide (member.1 ≠ name) := by
      rw [List.filter_filter, List.filter_filter]
      simp only [Bool.and_comm]
    rw [without, given?, given?, hsplit, ← List.filter_reverse,
      Members.get?_filter_name fun n => decide (n ≠ name)]
    by_cases hname : other = name
    · simp [hname]
    · simp [hname]
  | _ => simp [without, given?]

private theorem given?_without_cons (raw : Json) (name : String) (hpath : path ≠ [])
    (other : String) :
    (raw.without (name :: path)).given? other =
      (raw.given? other).map fun j => if other = name then j.without path else j := by
  cases raw with
  | object members =>
    obtain ⟨first, rest, rfl⟩ := List.exists_cons_of_ne_nil hpath
    have hnull : ∀ member : String × Json, (if member.1 = name then
        member.2.without (first :: rest) else member.2).isNull = member.2.isNull := by
      intro member
      by_cases hname : member.1 = name
      · rw [if_pos hname, isNull_without]
      · rw [if_neg hname]
    rw [without, given?, given?, List.filter_map]
    simp only [Function.comp_def, hnull]
    · rw [← List.map_reverse]
      exact Members.get?_map
        (fun n (j : Json) => if n = name then j.without (first :: rest) else j) _ other
    · exact nofun
  | _ => simp [without, given?]

end Json

/-! ## One field of many -/

namespace Declared

variable {E : Type} {ds : List (Declared E)} {d : Declared E} {set : E → d.type.Value → E}
  {raw other : Json} {e : E}

/-- A field that is set alone, all others having other names and other parts. -/
structure IsSetBy (d : Declared E) (ds : List (Declared E)) (set : E → d.type.Value → E) :
    Prop where
  mem : d ∈ ds
  get_set : ∀ e v, d.get (set e v) = v
  set_get : ∀ e v, set (set e v) (d.get e) = e
  others : ∀ d' ∈ ds, d' = d ∨ d'.name ≠ d.name ∧ ∀ e v, d'.get (set e v) = d'.get e

variable [Entity E] [Lawful E] [Distinct E] [Separate E]

theorem IsSetBy.hydrate_set (h : d.IsSetBy ds set)
    (hds : List.Forall₂ Describes ds (fields (E := E))) (he : hydrate raw = .ok e)
    (hother : other.IsRecord) (hsame : ∀ name ≠ d.name, other.given? name = raw.given? name)
    {v : d.type.Value} (hv : d.Holds other (set e v)) : hydrate other = .ok (set e v) := by
  rw [hydrate_eq_ok_iff_holds hds] at he ⊢
  refine ⟨hother, fun d' hd' => ?_⟩
  rcases h.others d' hd' with rfl | ⟨hname, hget⟩
  · exact hv
  · have hholds := he.2 d' hd'
    rwa [Holds, hsame _ hname, hget]

end Declared

/-! ## What dates stand for -/

namespace Json

theorem falsy_number_iff {n : Number} : (number n).Falsy ↔ n.isZero = true := by
  simp [Falsy]

theorem falsy_string_iff {text : String} : (string text).Falsy ↔ text = "" := by
  simp [Falsy]

theorem namesInstant_number_iff {n : Number} (hnonzero : n.isZero = false) {t : Instant} :
    (number n).NamesInstant t ↔
      ∃ w : WideInt, n = .int w ∧ t.millis = w.val ∧ t.nanos < 10 ^ 9 ∧ t.nanos % 10 ^ 6 = 0 := by
  constructor
  · rintro (⟨text, h, -⟩ | ⟨w, h, -, -, ht⟩)
    · cases h
    · exact ⟨w, number.inj h, Instant.ofMillis?_eq_some_iff.1 ht⟩
  · rintro ⟨w, rfl, ht⟩
    have hmillis := Instant.ofMillis?_eq_some_iff.2 ht
    have hrange := (Instant.millisInRange_iff w.val).1 (Instant.exists_ofMillis?_iff.1 ⟨t, hmillis⟩)
    have hzero : w.val ≠ 0 := by simpa [Number.isZero] using hnonzero
    exact Or.inr ⟨w, rfl, hzero, by omega, hmillis⟩

theorem namesInstant_string_iff {text : String} {t : Instant} :
    (string text).NamesInstant t ↔ ∃ stamp : Stamp, stamp.IsValid ∧ stamp.text = text ∧
      t.seconds = stamp.seconds ∧ t.nanos = stamp.nanos := by
  rw [← Stamp.parse_standard_eq_some_iff]
  constructor
  · rintro (⟨other, h, ht⟩ | ⟨w, h, -⟩)
    · rwa [string.inj h]
    · cases h
  · exact fun h => Or.inl ⟨text, rfl, h⟩

end Json

private theorem Json.NamesInstant.eq_some_of_denotes {j : Json} {t : Instant} (h : j.NamesInstant t)
    {v : Option Instant} (hv : FieldType.date.Denotes j v) : v = some t := by
  cases v with
  | none => exact absurd hv h.not_falsy
  | some s =>
    have hs := (Json.namesInstant_iff.1 hv).2
    rwa [(Json.namesInstant_iff.1 h).2, eq_comm] at hs

/-! ## Places of dates -/

/-- A date of the entities of a type: the path on which raw records give it, and
the part of an entity that has it. -/
structure DatePlace (E : Type) where
  path : List String
  get : E → Option Instant
  set : E → Option Instant → E

namespace DatePlace

variable {E R : Type}

def within (place : DatePlace R) (name : String) (get : E → R) (set : E → R → E) :
    DatePlace E where
  path := name :: place.path
  get e := place.get (get e)
  set e t := set e (place.set (get e) t)

/-- Whether a record is hydrated as it would be without its date, with the date
that is given. -/
def Splits [Entity E] (place : DatePlace E) : Prop :=
  ∀ raw j, raw.givenAt? place.path = some j → ∀ e : E, hydrate raw = .ok e ↔
    ∃ rest t, hydrate (raw.without place.path) = .ok rest ∧ FieldType.date.Denotes j t ∧
      place.set rest t = e

/-- Whether a record is read with a moment as its date: where it is accepted
without a date it is accepted with the moment put in, and nowhere else. -/
structure Reads [Entity E] (place : DatePlace E) (raw : Json) (t : Instant) : Prop where
  hydrate_iff : ∀ e : E, hydrate raw = .ok e ↔
    ∃ rest, hydrate (raw.without place.path) = .ok rest ∧ place.set rest (some t) = e
  get_eq : ∀ e : E, hydrate raw = .ok e → place.get e = some t

theorem Splits.reads [Entity E] {place : DatePlace E} (h : place.Splits)
    (hget : ∀ e t, place.get (place.set e t) = t) {raw j : Json}
    (hj : raw.givenAt? place.path = some j) {t : Instant} (ht : j.NamesInstant t) :
    place.Reads raw t := by
  have hiff : ∀ e : E, hydrate raw = .ok e ↔
      ∃ rest, hydrate (raw.without place.path) = .ok rest ∧ place.set rest (some t) = e := by
    intro e
    rw [h raw j hj e]
    refine exists_congr fun rest => ?_
    constructor
    · rintro ⟨v, hrest, hv, rfl⟩
      rw [ht.eq_some_of_denotes hv]
      exact ⟨hrest, rfl⟩
    · rintro ⟨hrest, rfl⟩
      exact ⟨some t, hrest, ht, rfl⟩
  refine ⟨hiff, fun e he => ?_⟩
  obtain ⟨rest, -, rfl⟩ := (hiff e).1 he
  exact hget rest (some t)

variable [Entity E] [Lawful E] [Distinct E] [Separate E] {ds : List (Declared E)} {name : String}

theorem splits_of_isSetBy (hds : List.Forall₂ Declared.Describes ds (fields (E := E)))
    {get : E → Option Instant} {set : E → Option Instant → E}
    (h : (⟨name, .date, get, none⟩ : Declared E).IsSetBy ds set) : Splits ⟨[name], get, set⟩ := by
  intro raw j hj e
  have hgiven : raw.given? name = some j := by simpa [Json.givenAt?] using hj
  have hobject := Json.isObject_of_givenAt? (List.cons_ne_nil _ _) hj
  have hwithout : (raw.without [name]).given? name = none := by
    rw [Json.given?_without_singleton, if_pos rfl]
  have hsame : ∀ other ≠ name, (raw.without [name]).given? other = raw.given? other := by
    intro other hother
    rw [Json.given?_without_singleton, if_neg hother]
  constructor
  · intro he
    have hholds := ((Declared.hydrate_eq_ok_iff_holds hds).1 he).2 _ h.mem
    have hdenotes := (Declared.holds_iff_of_given hgiven).1 hholds
    refine ⟨set e none, get e, ?_, hdenotes, h.set_get e none⟩
    apply h.hydrate_set hds he (Or.inr (Json.isObject_without hobject [name])) hsame
    exact (Declared.holds_iff_of_missing hwithout).2 (h.get_set e none)
  · rintro ⟨rest, t, hrest, hdenotes, rfl⟩
    apply h.hydrate_set hds hrest (Or.inr hobject) fun other hother => (hsame other hother).symm
    rw [Declared.holds_iff_of_given hgiven, h.get_set]
    exact hdenotes

theorem splits_within (hds : List.Forall₂ Declared.Describes ds (fields (E := E)))
    {get : E → User} {set : E → User → E}
    (h : (⟨name, .user, get, User.blank⟩ : Declared E).IsSetBy ds set) {place : DatePlace User}
    (hpath : place.path ≠ []) (hplace : place.Splits) : (place.within name get set).Splits := by
  intro raw j hj e
  obtain ⟨inner, hgiven, hinner⟩ := Option.bind_eq_some_iff.1 hj
  have hobject := Json.isObject_of_givenAt? (List.cons_ne_nil _ _) hj
  have hinnerobject := Json.isObject_of_givenAt? hpath hinner
  have hwithout : (raw.without (name :: place.path)).given? name =
      some (inner.without place.path) := by
    rw [Json.given?_without_cons raw name hpath, hgiven, Option.map_some, if_pos rfl]
  have hsame : ∀ other ≠ name,
      (raw.without (name :: place.path)).given? other = raw.given? other := by
    intro other hother
    rw [Json.given?_without_cons raw name hpath]
    simp only [if_neg hother, Option.map_id']
  constructor
  · intro he
    have hholds := ((Declared.hydrate_eq_ok_iff_holds hds).1 he).2 _ h.mem
    have howner := ((Declared.holds_iff_of_given hgiven).1 hholds).2
    -- The owner is split first, and what is left of it stands in the rest.
    obtain ⟨rest, t, hrest, hdenotes, hset⟩ := (hplace inner j hinner (get e)).1 howner
    refine ⟨set e rest, t, ?_, hdenotes, ?_⟩
    · apply h.hydrate_set hds he (Or.inr (Json.isObject_without hobject _)) hsame
      rw [Declared.holds_iff_of_given hwithout, h.get_set]
      exact ⟨Json.isObject_without hinnerobject _, hrest⟩
    · have hget : get (set e rest) = rest := h.get_set e rest
      have hback : set (set e rest) (get e) = e := h.set_get e rest
      change set (set e rest) (place.set (get (set e rest)) t) = e
      rw [hget, hset, hback]
  · rintro ⟨rest, t, hrest, hdenotes, rfl⟩
    have hholds := ((Declared.hydrate_eq_ok_iff_holds hds).1 hrest).2 _ h.mem
    have hinnerrest := ((Declared.holds_iff_of_given hwithout).1 hholds).2
    have howner := (hplace inner j hinner _).2 ⟨get rest, t, hinnerrest, hdenotes, rfl⟩
    apply h.hydrate_set hds hrest (Or.inr hobject) fun other hother => (hsame other hother).symm
    rw [Declared.holds_iff_of_given hgiven, h.get_set]
    exact ⟨hinnerobject, howner⟩

end DatePlace

/-! ## The dates of users, merchants and mappings -/

def User.datePlaces : List (DatePlace User) :=
  [ ⟨["created"], User.created, fun u t => { u with created := t }⟩,
    ⟨["updated"], User.updated, fun u t => { u with updated := t }⟩ ]

def Mapping.datePlaces : List (DatePlace Mapping) :=
  [ ⟨["created"], Mapping.created, fun m t => { m with created := t }⟩,
    ⟨["updated"], Mapping.updated, fun m t => { m with updated := t }⟩ ]

/-- The dates of a merchant, and those of its owner. -/
def Merchant.datePlaces : List (DatePlace Merchant) :=
  [ ⟨["created"], Merchant.created, fun m t => { m with created := t }⟩,
    ⟨["updated"], Merchant.updated, fun m t => { m with updated := t }⟩ ] ++
    User.datePlaces.map fun place =>
      place.within "owner" Merchant.owner fun m u => { m with owner := u }

namespace DatePlace

structure IsSound {E : Type} [Entity E] (place : DatePlace E) : Prop where
  get_set : ∀ e t, place.get (place.set e t) = t
  splits : place.Splits

variable {E : Type} [Entity E] [Lawful E] [Distinct E] [Separate E] {ds : List (Declared E)}
  {name : String}

theorem isSound_own {created updated : E → Option Instant}
    {setCreated setUpdated : E → Option Instant → E}
    (hds : List.Forall₂ Declared.Describes ds (fields (E := E)))
    (hcreated : (⟨"created", .date, created, none⟩ : Declared E).IsSetBy ds setCreated)
    (hupdated : (⟨"updated", .date, updated, none⟩ : Declared E).IsSetBy ds setUpdated) :
    ∀ place ∈ ([⟨["created"], created, setCreated⟩, ⟨["updated"], updated, setUpdated⟩] :
      List (DatePlace E)), place.IsSound :=
  List.forall_mem_cons.2 ⟨⟨hcreated.get_set, splits_of_isSetBy hds hcreated⟩,
    List.forall_mem_singleton.2 ⟨hupdated.get_set, splits_of_isSetBy hds hupdated⟩⟩

theorem isSound_user : ∀ place ∈ User.datePlaces, place.IsSound :=
  isSound_own Declared.describes_user
    ⟨EntityKind.user.declared_created, fun _ _ => rfl, fun _ _ => rfl, by simp [User.declared]⟩
    ⟨EntityKind.user.declared_updated, fun _ _ => rfl, fun _ _ => rfl, by simp [User.declared]⟩

theorem isSound_mapping : ∀ place ∈ Mapping.datePlaces, place.IsSound :=
  isSound_own Declared.describes_mapping
    ⟨EntityKind.mapping.declared_created, fun _ _ => rfl, fun _ _ => rfl,
      by simp [Mapping.declared]⟩
    ⟨EntityKind.mapping.declared_updated, fun _ _ => rfl, fun _ _ => rfl,
      by simp [Mapping.declared]⟩

theorem isSound_merchant : ∀ place ∈ Merchant.datePlaces, place.IsSound := by
  rw [Merchant.datePlaces, List.forall_mem_append, List.forall_mem_map]
  constructor
  · exact isSound_own Declared.describes_merchant
      ⟨EntityKind.merchant.declared_created, fun _ _ => rfl, fun _ _ => rfl,
        by simp [Merchant.declared]⟩
      ⟨EntityKind.merchant.declared_updated, fun _ _ => rfl, fun _ _ => rfl,
        by simp [Merchant.declared]⟩
  · intro place hplace
    have howner : (⟨"owner", .user, Merchant.owner, User.blank⟩ : Declared Merchant).IsSetBy
        Merchant.declared fun m u => { m with owner := u } :=
      ⟨List.mem_of_getElem? (i := 7) rfl, fun _ _ => rfl, fun _ _ => rfl,
        by simp [Merchant.declared]⟩
    have hpath : place.path ≠ [] := by
      simp only [User.datePlaces, List.mem_cons, List.not_mem_nil, or_false] at hplace
      rcases hplace with rfl | rfl <;> exact List.cons_ne_nil _ _
    have huser := isSound_user place hplace
    exact ⟨fun m t => huser.get_set m.owner t,
      splits_within Declared.describes_merchant howner hpath huser.splits⟩

end DatePlace

namespace EntityKind

def datePlaces : (kind : EntityKind) → List (DatePlace kind.Carrier)
  | .user => User.datePlaces
  | .merchant => Merchant.datePlaces
  | .mapping => Mapping.datePlaces

variable {kind : EntityKind} {place : DatePlace kind.Carrier} {raw j : Json}

theorem isSound_of_mem (hplace : place ∈ kind.datePlaces) : place.IsSound := by
  cases kind with
  | user => exact DatePlace.isSound_user place hplace
  | merchant => exact DatePlace.isSound_merchant place hplace
  | mapping => exact DatePlace.isSound_mapping place hplace

/-- A value that stands for no date and for no lack of one is not decoded. -/
theorem refused_of_not_date (hplace : place ∈ kind.datePlaces)
    (hj : raw.givenAt? place.path = some j) (hfalsy : ¬ j.Falsy) (hnone : ∀ t, ¬ j.NamesInstant t) :
    ∃ reason, (hydrate raw : Except ApiError kind.Carrier) = .error (.decode reason) := by
  cases hraw : (hydrate raw : Except ApiError kind.Carrier) with
  | error cause =>
    obtain ⟨reason, rfl⟩ := kind.decodes_hydrate raw cause hraw
    exact ⟨reason, rfl⟩
  | ok e =>
    obtain ⟨-, t, -, ht, -⟩ := ((isSound_of_mem hplace).splits raw j hj e).1 hraw
    cases t with
    | none => exact absurd ht hfalsy
    | some t => exact absurd ht (hnone t)

/-- A number that is not zero is read as the moment with so many milliseconds if
there is one, and a text as the moment of its time stamp.  Other numbers and
texts are not decoded, but for zero and the empty text. -/
theorem dates_exact (kind : EntityKind) {place : DatePlace kind.Carrier}
    (hplace : place ∈ kind.datePlaces) (raw : Json) :
    (∀ n : Json.Number, raw.givenAt? place.path = some (.number n) → n.isZero = false →
      (∀ w : WideInt, n = .int w → Instant.MillisInRange w.val →
        ∃ t : Instant, t.millis = w.val ∧ t.nanos < 10 ^ 9 ∧ t.nanos % 10 ^ 6 = 0 ∧
          place.Reads raw t) ∧
      ((∀ w : WideInt, n = .int w → ¬ Instant.MillisInRange w.val) → ∃ reason,
        (hydrate raw : Except ApiError kind.Carrier) = .error (.decode reason))) ∧
    ∀ text : String, raw.givenAt? place.path = some (.string text) →
      (∀ stamp : Stamp, stamp.IsValid → stamp.text = text →
        ∃ t : Instant, t.seconds = stamp.seconds ∧ t.nanos = stamp.nanos ∧ place.Reads raw t) ∧
      (text ≠ "" → (∀ stamp : Stamp, stamp.IsValid → stamp.text ≠ text) → ∃ reason,
        (hydrate raw : Except ApiError kind.Carrier) = .error (.decode reason)) := by
  have hsound := isSound_of_mem hplace
  constructor
  · intro n hn hnonzero
    constructor
    · rintro w rfl hrange
      obtain ⟨t, ht⟩ := Instant.exists_ofMillis?_iff.2 hrange
      have hparts := Instant.ofMillis?_eq_some_iff.1 ht
      have hnames := (Json.namesInstant_number_iff hnonzero).2 ⟨w, rfl, hparts⟩
      exact ⟨t, hparts.1, hparts.2.1, hparts.2.2, hsound.splits.reads hsound.get_set hn hnames⟩
    · intro hrange
      apply refused_of_not_date hplace hn
      · rw [Json.falsy_number_iff, hnonzero]
        exact Bool.false_ne_true
      · intro t ht
        obtain ⟨w, hw, hparts⟩ := (Json.namesInstant_number_iff hnonzero).1 ht
        have hmillis := Instant.ofMillis?_eq_some_iff.2 hparts
        exact hrange w hw (Instant.exists_ofMillis?_iff.1 ⟨t, hmillis⟩)
  · intro text htext
    constructor
    · intro stamp hstamp heq
      obtain ⟨t, hseconds, hnanos⟩ := stamp.exists_instant hstamp
      have hnames := Json.namesInstant_string_iff.2 ⟨stamp, hstamp, heq, hseconds, hnanos⟩
      exact ⟨t, hseconds, hnanos, hsound.splits.reads hsound.get_set htext hnames⟩
    · intro hempty hnone
      apply refused_of_not_date hplace htext
      · rwa [Json.falsy_string_iff]
      · intro t ht
        obtain ⟨stamp, hstamp, heq, -⟩ := Json.namesInstant_string_iff.1 ht
        exact hnone stamp hstamp heq

/-- A leap second at an offset, with a digit behind the nanoseconds. -/
def leapStamp : Stamp :=
  ⟨⟨2016, 12, 31⟩, 'T', 18, 29, 60, "1234567891".toList, .offset '-' 5 30⟩

def leapRecord : Json :=
  .object [("created", .number (.int ⟨-1, by decide, by decide⟩)),
    ("owner", .object [("updated", .string "2016-12-31T18:29:60.1234567891-05:30")])]

def farRecord : Json :=
  .object [("updated", .number (.int ⟨8210266876800000, by decide, by decide⟩))]

theorem dates_exact_leapRecord :
    (∃ t : Instant, t.millis = -1 ∧ ∀ m : Merchant, hydrate leapRecord = .ok m →
      m.created = some t) ∧
    (∃ t : Instant, t.seconds = 1483228799 ∧ t.nanos = 1123456789 ∧ ∀ m : Merchant,
      hydrate leapRecord = .ok m → m.owner.updated = some t) ∧
    (∃ m : Merchant, hydrate leapRecord = .ok m) ∧
    ∃ reason, (hydrate farRecord : Except ApiError Mapping) = .error (.decode reason) := by
  have hvalid : leapStamp.IsValid := by decide
  have hseconds : leapStamp.seconds = 1483228799 := by
    rw [Stamp.seconds_eq hvalid]
    decide
  have hcreated := (dates_exact .merchant (List.mem_of_getElem? (i := 0) rfl) leapRecord).1
    (.int ⟨-1, by decide, by decide⟩) rfl rfl
  have howner := (dates_exact .merchant (List.mem_of_getElem? (i := 3) rfl) leapRecord).2
    "2016-12-31T18:29:60.1234567891-05:30" rfl
  have hfar := (dates_exact .mapping (List.mem_of_getElem? (i := 1) rfl) farRecord).1
    (.int ⟨8210266876800000, by decide, by decide⟩) rfl rfl
  obtain ⟨s, hmillis, -, -, hs⟩ := hcreated.1 _ rfl ((Instant.millisInRange_iff _).2 (by decide))
  obtain ⟨t, ht, hnanos, hreads⟩ := howner.1 leapStamp hvalid (by rfl)
  refine ⟨⟨s, hmillis, hs.get_eq⟩, ⟨t, ht.trans hseconds, hnanos, hreads.get_eq⟩, ⟨_, rfl⟩, ?_⟩
  refine hfar.2 fun w hw hrange => ?_
  rw [← Json.Number.int.inj hw, Instant.millisInRange_iff] at hrange
  exact absurd hrange.2 (by decide)

end EntityKind

end MerchantApi
