import MerchantApi.Proofs.Mapping.Group
/-!
# What groups hold

The groups of mappings, told without the loop that collects them.  Their fields
are those of the mappings by first occurrence, and each of them has the labels
of its field.  While they are collected no position points past the groups.
-/

namespace MerchantApi.Group

variable {mappings : List Mapping} {g : Group}

/-! ## Fields -/

private theorem map_field_place (m : Mapping) (groups : List Group) :
    (place m groups).map field =
      if m.fieldName ∈ groups.map field then groups.map field
      else groups.map field ++ [m.fieldName] := by
  induction groups with
  | nil => rfl
  | cons g groups ih =>
    by_cases hfield : g.field = m.fieldName
    · simp [place, hfield]
    · have hmem : m.fieldName ∈ (g :: groups).map field ↔ m.fieldName ∈ groups.map field := by
        simp [Ne.symm hfield]
      rw [place, if_neg hfield, List.map_cons, ih]
      by_cases hlisted : m.fieldName ∈ groups.map field
      · rw [if_pos hlisted, if_pos (hmem.2 hlisted), List.map_cons]
      · rw [if_neg hlisted, if_neg (mt hmem.1 hlisted), List.map_cons, List.cons_append]

theorem map_field_ofMappings (mappings : List Mapping) :
    (ofMappings mappings).map field = (mappings.map Mapping.fieldName).eraseDups := by
  induction mappings using List.reverseRecOn with
  | nil => rfl
  | append_singleton mappings m ih =>
    have hremoved : [m.fieldName].removeAll (mappings.map Mapping.fieldName) =
        if m.fieldName ∈ mappings.map Mapping.fieldName then [] else [m.fieldName] := by
      rw [List.removeAll, List.filter_singleton, List.elem_eq_mem]
      by_cases hlisted : m.fieldName ∈ mappings.map Mapping.fieldName
      · rw [decide_eq_true hlisted, if_pos hlisted]
        rfl
      · rw [decide_eq_false hlisted, if_neg hlisted]
        rfl
    rw [ofMappings_append, List.foldl_cons, List.foldl_nil, map_field_place, ih, List.map_append,
      List.map_singleton, List.eraseDups_append, hremoved]
    by_cases hlisted : m.fieldName ∈ mappings.map Mapping.fieldName
    · rw [if_pos (List.mem_eraseDups.2 hlisted), if_pos hlisted, List.eraseDups_nil,
        List.append_nil]
    · rw [if_neg (mt List.mem_eraseDups.1 hlisted), if_neg hlisted]
      rfl

/-! ## Labels -/

theorem filter_field_ofMappings (name : String) (mappings : List Mapping) :
    (ofMappings mappings).filter (fun g => g.field = name) =
      [⟨name, (mappings.filter fun m => m.fieldName = name).map Mapping.label⟩].filter
        fun g => g.labels ≠ [] := by
  have hfield : ∀ m ∈ mappings.filter fun m => m.fieldName = name, m.fieldName = name :=
    fun m hm => of_decide_eq_true (List.mem_filter.1 hm).2
  rw [← ofMappings_filter fun field => field = name, ofMappings_eq_foldl_place,
    foldl_place_of_new (fun _ h => absurd h List.not_mem_nil) hfield, List.nil_append]

theorem labels_of_mem (h : g ∈ ofMappings mappings) :
    g.labels = (mappings.filter fun m => m.fieldName = g.field).map Mapping.label ∧
      g.labels ≠ [] := by
  have hkept : g ∈ (ofMappings mappings).filter fun other => other.field = g.field :=
    List.mem_filter.2 ⟨h, decide_eq_true rfl⟩
  rw [filter_field_ofMappings] at hkept
  obtain ⟨hmem, hlabels⟩ := List.mem_filter.1 hkept
  have heq := List.mem_singleton.1 hmem
  exact ⟨congrArg Group.labels heq, of_decide_eq_true hlabels⟩

private theorem sum_length_place (m : Mapping) (groups : List Group) :
    ((place m groups).map fun g => g.labels.length).sum =
      (groups.map fun g => g.labels.length).sum + 1 := by
  induction groups with
  | nil => rfl
  | cons g groups ih =>
    by_cases hfield : g.field = m.fieldName
    · rw [place, if_pos hfield, List.map_cons, List.map_cons, List.sum_cons, List.sum_cons,
        List.length_append, List.length_singleton]
      omega
    · rw [place, if_neg hfield, List.map_cons, List.map_cons, List.sum_cons, List.sum_cons, ih]
      omega

theorem sum_length_ofMappings (mappings : List Mapping) :
    ((ofMappings mappings).map fun g => g.labels.length).sum = mappings.length := by
  induction mappings using List.reverseRecOn with
  | nil => rfl
  | append_singleton mappings m ih =>
    rw [ofMappings_append, List.foldl_cons, List.foldl_nil, sum_length_place, ih,
      List.length_append, List.length_singleton]

/-! ## Groups -/

/-- The groups of mappings have the distinct fields of the mappings by first
occurrence, each with the labels of its field in the order of the mappings.  No
group is empty, no label is lost or added, and the position of a field is always
that of a group of this field. -/
theorem ofMappings_by_first_occurrence (mappings : List Mapping) :
    (ofMappings mappings).map field = (mappings.map Mapping.fieldName).eraseDups ∧
    (∀ g ∈ ofMappings mappings,
      g.labels = (mappings.filter fun m => m.fieldName = g.field).map Mapping.label ∧
        g.labels ≠ []) ∧
    ((ofMappings mappings).map fun g => g.labels.length).sum = mappings.length ∧
    ∀ earlier m later, mappings = earlier ++ m :: later →
      let located := (earlier.foldl Grouping.put .empty).locate m.fieldName
      ∃ _ : located.1 < located.2.groups.length,
        located.2.groups[located.1].field = m.fieldName := by
  refine ⟨map_field_ofMappings mappings, fun g => labels_of_mem, sum_length_ofMappings mappings, ?_⟩
  intro earlier m later _
  have hindexed := Grouping.indexed_foldl earlier Grouping.indexed_empty
  obtain ⟨g, hg, hfield⟩ := hindexed.exists_group m.fieldName
  obtain ⟨hlt, hat⟩ := List.getElem?_eq_some_iff.1 hg
  exact ⟨hlt, by rw [hat, hfield]⟩

def mixedFields : List Mapping :=
  [.ofLabel "b" "p" "late" 7, .ofLabel "" "p" "early" (-1), .ofLabel "b" "p" "late" 7]

theorem ofMappings_mixedFields :
    ofMappings mixedFields =
      [⟨"b", [⟨"p", "late", 7⟩, ⟨"p", "late", 7⟩]⟩, ⟨"", [⟨"p", "early", -1⟩]⟩] ∧
    (∀ g ∈ ofMappings mixedFields, g.field = "b" → g.labels.length = 2) ∧
    let located := ((mixedFields.take 2).foldl Grouping.put .empty).locate "b"
    located.1 = 0 ∧ ∃ _ : located.1 < located.2.groups.length,
      located.2.groups[located.1].field = "b" := by
  obtain ⟨-, hlabels, -, hlocated⟩ := ofMappings_by_first_occurrence mixedFields
  refine ⟨by decide, fun g hg hfield => ?_, by decide, ?_⟩
  · rw [(hlabels g hg).1, hfield]
    decide
  · exact hlocated (mixedFields.take 2) (.ofLabel "b" "p" "late" 7) [] (by decide)

end MerchantApi.Group
