import MerchantApi.Mapping.Group
import MerchantApi.Proofs.Members
/-!
# Positions of groups

While mappings are grouped, a table keeps the position of the group of each
field.  The table has the position at which the group of a field stands, and
fields without a group are not in it.  So every label finds the group of its
field, and grouping comes to looking for that group from the front.
-/

namespace MerchantApi

namespace Group

variable {m : Mapping} {groups : List Group}

/-- Append the label of a mapping to the first group of its field, which is
opened at the end when there is none. -/
def place (m : Mapping) : List Group → List Group
  | [] => [⟨m.fieldName, [m.label]⟩]
  | g :: groups =>
    if g.field = m.fieldName then { g with labels := g.labels ++ [m.label] } :: groups
    else g :: place m groups

theorem place_append_of_forall_ne (h : ∀ g ∈ groups, g.field ≠ m.fieldName) (later : List Group) :
    place m (groups ++ later) = groups ++ place m later := by
  induction groups with
  | nil => rfl
  | cons g groups ih =>
    obtain ⟨hg, hrest⟩ := List.forall_mem_cons.1 h
    rw [List.cons_append, place, if_neg hg, ih hrest, List.cons_append]

end Group

namespace Grouping

variable {s : Grouping} {field : String} {position : Nat}

/-- Whether the table has exactly the positions at which the groups of fields stand. -/
def Indexed (s : Grouping) : Prop :=
  ∀ field position, Members.get? s.positions field = some position ↔
    s.groups[position]?.map Group.field = some field

theorem indexed_empty : empty.Indexed := by
  intro field position
  simp [empty]

theorem Indexed.get?_of_getElem? (h : s.Indexed) {g : Group} (hg : s.groups[position]? = some g) :
    Members.get? s.positions g.field = some position := by
  rw [h, hg, Option.map_some]

theorem Indexed.forall_ne_of_none (h : s.Indexed) (hnone : Members.get? s.positions field = none) :
    ∀ g ∈ s.groups, g.field ≠ field := by
  intro g hg heq
  obtain ⟨position, hposition⟩ := List.mem_iff_getElem?.1 hg
  have hsome := h.get?_of_getElem? hposition
  rw [heq, hnone] at hsome
  cases hsome

/-! ## Finding the group of a field -/

private theorem locate_of_some (h : Members.get? s.positions field = some position) :
    s.locate field = (position, s) := by
  rw [locate, h]

private theorem locate_of_none (h : Members.get? s.positions field = none) :
    s.locate field = (s.groups.length,
      ⟨s.groups ++ [.ofField field], Members.insert field s.groups.length s.positions⟩) := by
  rw [locate, h]

/-- A group that is opened at the end leaves the positions of the others alone. -/
theorem Indexed.locate (h : s.Indexed) (field : String) : (s.locate field).2.Indexed := by
  cases hget : Members.get? s.positions field with
  | some position =>
    rw [locate_of_some hget]
    exact h
  | none =>
    rw [locate_of_none hget]
    intro other position
    have hopened : (s.groups ++ [Group.ofField field])[position]? =
        if position = s.groups.length then some (.ofField field) else s.groups[position]? := by
      grind
    rw [Members.get?_insert, hopened]
    by_cases hlast : position = s.groups.length
    · have hfree : Members.get? s.positions other ≠ some position := by
        rw [ne_eq, h, hlast, List.getElem?_eq_none le_rfl]
        simp
      by_cases hfield : field = other
      · simp [hlast, hfield, Group.ofField]
      · simp [hlast ▸ hfree, hlast, hfield, Group.ofField]
    · rw [if_neg hlast, ← h]
      by_cases hfield : field = other
      · simp [← hfield, hget, Ne.symm hlast]
      · rw [if_neg hfield]

/-- The position of a field is that of a group of this field. -/
theorem Indexed.exists_group (h : s.Indexed) (field : String) :
    ∃ g, (s.locate field).2.groups[(s.locate field).1]? = some g ∧ g.field = field := by
  cases hget : Members.get? s.positions field with
  | some position =>
    rw [locate_of_some hget]
    exact Option.map_eq_some_iff.1 ((h field position).1 hget)
  | none =>
    rw [locate_of_none hget]
    exact ⟨.ofField field, List.getElem?_concat_length, rfl⟩

/-! ## Putting a label into its group -/

/-- The only group of a field is the first one from the front. -/
theorem Indexed.modify_eq_place (h : s.Indexed) {m : Mapping} {g : Group}
    (hg : s.groups[position]? = some g) (hfield : g.field = m.fieldName) :
    s.groups.modify position (fun g => { g with labels := g.labels ++ [m.label] }) =
      Group.place m s.groups := by
  obtain ⟨hlt, hat⟩ := List.getElem?_eq_some_iff.1 hg
  have hbefore : ∀ other ∈ s.groups.take position, other.field ≠ m.fieldName := by
    intro other hother heq
    obtain ⟨earlier, hearlier⟩ := List.mem_iff_getElem?.1 hother
    rw [List.getElem?_take] at hearlier
    by_cases hless : earlier < position
    · rw [if_pos hless] at hearlier
      have hsame : some earlier = some position := by
        rw [← h.get?_of_getElem? hg, ← h.get?_of_getElem? hearlier, heq, hfield]
      exact absurd (Option.some.inj hsame) (by omega)
    · rw [if_neg hless] at hearlier
      cases hearlier
  calc
    s.groups.modify position (fun g => { g with labels := g.labels ++ [m.label] }) =
        s.groups.take position ++
          { g with labels := g.labels ++ [m.label] } :: s.groups.drop (position + 1) := by
      rw [List.modify_eq_take_cons_drop hlt, hat]
    _ = Group.place m (s.groups.take position ++ g :: s.groups.drop (position + 1)) := by
      rw [Group.place_append_of_forall_ne hbefore, Group.place, if_pos hfield]
    _ = Group.place m s.groups := by
      rw [← hat, List.getElem_cons_drop, List.take_append_drop]

/-- Opening the group of a mapping before it is placed makes no difference. -/
theorem Indexed.place_locate (h : s.Indexed) (m : Mapping) :
    Group.place m (s.locate m.fieldName).2.groups = Group.place m s.groups := by
  cases hget : Members.get? s.positions m.fieldName with
  | some position => rw [locate_of_some hget]
  | none =>
    have hnew := h.forall_ne_of_none hget
    have hopened : Group.place m [.ofField m.fieldName] = Group.place m [] := if_pos rfl
    rw [locate_of_none hget, Group.place_append_of_forall_ne hnew, hopened,
      ← Group.place_append_of_forall_ne hnew, List.append_nil]

theorem Indexed.groups_put (h : s.Indexed) (m : Mapping) :
    (s.put m).groups = Group.place m s.groups := by
  obtain ⟨g, hg, hfield⟩ := h.exists_group m.fieldName
  rw [← h.place_locate m, ← (h.locate m.fieldName).modify_eq_place hg hfield]
  rfl

theorem Indexed.put (h : s.Indexed) (m : Mapping) : (s.put m).Indexed := by
  intro field position
  have hlocated := h.locate m.fieldName field position
  change Members.get? (s.locate m.fieldName).2.positions field = some position ↔
    ((s.locate m.fieldName).2.groups.modify (s.locate m.fieldName).1 _)[position]?.map
      Group.field = some field
  rw [hlocated, List.getElem?_modify]
  cases (s.locate m.fieldName).2.groups[position]? with
  | none => rfl
  | some g =>
    simp only [Option.map_eq_map, Option.map_some]
    split <;> rfl

theorem indexed_foldl (mappings : List Mapping) (h : s.Indexed) :
    (mappings.foldl Grouping.put s).Indexed := by
  induction mappings generalizing s with
  | nil => exact h
  | cons m mappings ih => exact ih (h.put m)

theorem groups_foldl (mappings : List Mapping) (h : s.Indexed) :
    (mappings.foldl Grouping.put s).groups =
      mappings.foldl (fun groups m => Group.place m groups) s.groups := by
  induction mappings generalizing s with
  | nil => rfl
  | cons m mappings ih =>
    rw [List.foldl_cons, List.foldl_cons, ih (h.put m), h.groups_put]

end Grouping

theorem Group.ofMappings_eq_foldl_place (mappings : List Mapping) :
    ofMappings mappings = mappings.foldl (fun groups m => place m groups) [] :=
  Grouping.groups_foldl mappings Grouping.indexed_empty

end MerchantApi
