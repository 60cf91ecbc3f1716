import MerchantApi.Proofs.Entity.Lawful
import MerchantApi.Proofs.Mapping.Grouping
import MerchantApi.Proofs.Outcome
import Mathlib.Data.List.Induction
/-!
# Groups of mappings

Groups are read back from their JSON form as they were.  Grouping goes by the
field alone: mappings of some fields are grouped as if there were no others, and
mappings of a field that is new make up a group of their own at the end.
-/

namespace MerchantApi

/-! ## Reading groups back -/

theorem Json.asList_map_eq_ok {α : Type} {item : Json → Except Json.Mismatch α} {write : α → Json}
    (h : ∀ a, item (write a) = .ok a) (items : List α) :
    Json.asList item (.array (items.map write)) = .ok items := by
  rw [Json.asList, Outcome.mapM_eq_ok_iff, List.forall₂_map_left_iff]
  exact List.forall₂_same.2 fun a _ => h a

namespace Label

theorem json_eq (l : Label) :
    l.json = .object [("displayText", .string l.displayText), ("labelId", .ofInt64 l.labelId),
      ("placeholder", .string l.placeholder)] := by
  have hdisplay : "displayText" < "placeholder" := by decide
  have hid : "labelId" < "placeholder" := by decide
  have hafter : ¬ "labelId" < "displayText" := by decide
  simp [json, members, Members.ofList, Members.overlay, Members.insert, hdisplay, hid, hafter]

theorem ofValue_json (l : Label) : ofValue l.json = .ok l := by
  have hid : shape.putMember ⟨none, some l.displayText, none⟩ ("labelId", .ofInt64 l.labelId) =
      .ok ⟨none, some l.displayText, some l.labelId⟩ := by
    change (Json.asInt64 (.ofInt64 l.labelId)).map _ = _
    rw [Json.asInt64_ofInt64]
    rfl
  have hread : shape.ofValue .empty l.json =
      .ok ⟨some l.placeholder, some l.displayText, some l.labelId⟩ := by
    rw [json_eq]
    change (shape.putMember ⟨none, some l.displayText, none⟩ _ >>= fun d =>
      [("placeholder", .string l.placeholder)].foldlM shape.putMember d) >>= shape.complete = _
    rw [hid]
    rfl
  rw [ofValue, hread]
  rfl

end Label

namespace Group

theorem ofValue_json (g : Group) : ofValue g.json = .ok g := by
  have hlabels : Json.asList Label.ofValue (.array (g.labels.map Label.json)) = .ok g.labels :=
    Json.asList_map_eq_ok Label.ofValue_json g.labels
  have hmappings : shape.putMember ⟨some g.field, none⟩
      ("mappings", .array (g.labels.map Label.json)) = .ok ⟨some g.field, some g.labels⟩ := by
    change (Json.asList Label.ofValue _).map _ = _
    rw [hlabels]
    rfl
  have hread : shape.ofValue .empty g.json = .ok ⟨some g.field, some g.labels⟩ := by
    change (shape.putMember ⟨some g.field, none⟩ _ >>= pure) >>= shape.complete = _
    rw [hmappings]
    rfl
  rw [ofValue, hread]
  rfl

theorem listOfValue_map_json (groups : List Group) :
    listOfValue (.array (groups.map Group.json)) = .ok groups :=
  Json.asList_map_eq_ok ofValue_json groups

/-! ## Grouping -/

variable {m : Mapping} {groups : List Group} {mappings : List Mapping}

/-- Placing a mapping takes no notice of groups that are left out. -/
theorem filter_place (keep : String → Bool) (m : Mapping) (groups : List Group) :
    (place m groups).filter (fun g => keep g.field) =
      if keep m.fieldName then place m (groups.filter fun g => keep g.field)
      else groups.filter fun g => keep g.field := by
  induction groups with
  | nil =>
    rw [place, List.filter_singleton]
    by_cases hkeep : keep m.fieldName = true <;> simp [hkeep, place]
  | cons g groups ih =>
    rw [place]
    by_cases hfield : g.field = m.fieldName
    · by_cases hkeep : keep m.fieldName = true
      · simp [hfield, hkeep, place]
      · simp [hfield, hkeep]
    · rw [if_neg hfield]
      by_cases hkeep : keep g.field = true
      · rw [List.filter_cons, List.filter_cons, if_pos hkeep, if_pos hkeep, ih, place,
          if_neg hfield]
        split <;> rfl
      · rw [List.filter_cons, List.filter_cons, if_neg hkeep, if_neg hkeep, ih]

theorem ofMappings_append (mappings later : List Mapping) :
    ofMappings (mappings ++ later) =
      later.foldl (fun groups m => place m groups) (ofMappings mappings) := by
  rw [ofMappings_eq_foldl_place, List.foldl_append, ← ofMappings_eq_foldl_place]

/-- The mappings of some fields are grouped as they are among others. -/
theorem ofMappings_filter (keep : String → Bool) (mappings : List Mapping) :
    ofMappings (mappings.filter fun m => keep m.fieldName) =
      (ofMappings mappings).filter fun g => keep g.field := by
  induction mappings using List.reverseRecOn with
  | nil => rfl
  | append_singleton mappings m ih =>
    rw [ofMappings_append, List.foldl_cons, List.foldl_nil, filter_place, ← ih, List.filter_append,
      ofMappings_append]
    by_cases hkeep : keep m.fieldName = true
    · rw [if_pos hkeep, List.filter_singleton]
      simp [hkeep]
    · rw [if_neg hkeep, List.filter_singleton]
      simp [hkeep]

theorem foldl_place_of_last {field : String} (hnew : ∀ g ∈ groups, g.field ≠ field)
    (hfield : ∀ m ∈ mappings, m.fieldName = field) (labels : List Label) :
    mappings.foldl (fun groups m => place m groups) (groups ++ [⟨field, labels⟩]) =
      groups ++ [⟨field, labels ++ mappings.map Mapping.label⟩] := by
  induction mappings generalizing labels with
  | nil => simp
  | cons m mappings ih =>
    obtain ⟨rfl, hrest⟩ := List.forall_mem_cons.1 hfield
    rw [List.foldl_cons, place_append_of_forall_ne hnew, place, if_pos rfl, ih hrest,
      List.append_assoc]
    rfl

theorem foldl_place_of_new {field : String} (hnew : ∀ g ∈ groups, g.field ≠ field)
    (hfield : ∀ m ∈ mappings, m.fieldName = field) :
    mappings.foldl (fun groups m => place m groups) groups =
      groups ++ [⟨field, mappings.map Mapping.label⟩].filter fun g => g.labels ≠ [] := by
  cases mappings with
  | nil => simp
  | cons m mappings =>
    obtain ⟨rfl, hrest⟩ := List.forall_mem_cons.1 hfield
    have hfirst : place m groups = groups ++ [⟨m.fieldName, [m.label]⟩] := by
      rw [← place, ← place_append_of_forall_ne hnew, List.append_nil]
    rw [List.foldl_cons, hfirst, foldl_place_of_last hnew hrest]
    rfl

/-- Groups with one of them replaced.  The new one stands at the end, unless it
is empty. -/
def replace (groups : List Group) (g : Group) : List Group :=
  groups.filter (fun other => other.field ≠ g.field) ++ [g].filter fun g => g.labels ≠ []

/-- The group of a field is replaced by that of the mappings which come to the
end in the place of those of the field. -/
theorem ofMappings_filter_append {g : Group} {later : List Mapping}
    (hfield : ∀ m ∈ later, m.fieldName = g.field) (hlabels : later.map Mapping.label = g.labels)
    (mappings : List Mapping) :
    ofMappings (mappings.filter (fun m => m.fieldName ≠ g.field) ++ later) =
      replace (ofMappings mappings) g := by
  have hnew : ∀ other ∈ (ofMappings mappings).filter (fun other => other.field ≠ g.field),
      other.field ≠ g.field :=
    fun other hother => of_decide_eq_true (List.mem_filter.1 hother).2
  rw [ofMappings_append, ofMappings_filter fun name => name ≠ g.field,
    foldl_place_of_new hnew hfield, hlabels, replace]

/-- Of groups of distinct fields that are saved one after the other, each stays
where it was put. -/
theorem foldl_replace {saved : List Group} (hdistinct : (saved.map Group.field).Nodup)
    (groups : List Group) :
    saved.foldl replace groups =
      groups.filter (fun g => g.field ∉ saved.map Group.field) ++
        saved.filter fun g => g.labels ≠ [] := by
  induction saved generalizing groups with
  | nil => simp
  | cons g saved ih =>
    obtain ⟨hnew, hrest⟩ := List.nodup_cons.1 hdistinct
    -- The groups after it have other fields, so they leave this one at the end alone.
    have hkept : [g].filter (fun g => g.field ∉ saved.map Group.field) = [g] := by
      simpa using hnew
    have hothers : groups.filter (fun other =>
        decide (other.field ∉ saved.map Group.field) && decide (other.field ≠ g.field)) =
          groups.filter fun other => other.field ∉ (g :: saved).map Group.field :=
      List.filter_congr fun other _ => by
        rw [← Bool.decide_and, decide_eq_decide, List.map_cons, List.mem_cons, not_or, and_comm]
    calc
      (g :: saved).foldl replace groups =
          (replace groups g).filter (fun other => other.field ∉ saved.map Group.field) ++
            saved.filter fun g => g.labels ≠ [] := ih hrest (replace groups g)
      _ = groups.filter (fun other => other.field ∉ (g :: saved).map Group.field) ++
            [g].filter (fun g => g.labels ≠ []) ++ saved.filter fun g => g.labels ≠ [] := by
        rw [replace, List.filter_append, List.filter_filter, List.filter_comm, hkept, hothers]
      _ = groups.filter (fun other => other.field ∉ (g :: saved).map Group.field) ++
            (g :: saved).filter fun g => g.labels ≠ [] := by
        rw [List.append_assoc, ← List.filter_append, List.singleton_append]

end Group

end MerchantApi
