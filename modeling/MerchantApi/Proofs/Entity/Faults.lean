import MerchantApi.Proofs.Entity.Hydration
/-!
# What hydration looks at

Hydration looks at nothing but the values of the declared fields.  The first
value that a field cannot take is the error, so values that are taken may be
exchanged for others without a change of the error, and for others from which
the same is taken without a change at all.
-/

namespace MerchantApi

open Entity

variable {E : Type} [Entity E] {raw other : Json} {field : Field E} {j k : Json} {x y : E}

/-- Whether the field of an entity has what is left of a raw value. -/
def Field.Takes (field : Field E) (j : Json) (e : E) : Prop :=
  ∃ k, normalValue E field.name j = .ok k ∧ field.read k e = .ok e

namespace Field.Takes

theorem write_eq (hlens : field.IsLens) (hx : field.Takes j x) (hy : field.Takes j y) :
    field.write x = field.write y := by
  obtain ⟨k, hk, hreadx⟩ := hx
  obtain ⟨l, hl, hready⟩ := hy
  obtain rfl : k = l := Except.ok.inj (hk.symm.trans hl)
  have hboth : field.read (field.write x) y = .ok y := by
    rw [← hlens.read_congr hreadx, hready]
  obtain ⟨T, get, set, ofJson, toJson, h⟩ := hlens
  rw [h.read_eq_self_iff, h.write_eq, h.of_to] at hboth
  rw [h.write_eq, h.write_eq, Except.ok.inj hboth]

private theorem of_write_eq (hlens : field.IsLens) (hx : field.Takes j x)
    (h : field.write x = field.write y) : field.Takes j y := by
  obtain ⟨k, hk, hread⟩ := hx
  refine ⟨k, hk, ?_⟩
  rw [hlens.read_congr hread, h]
  exact hlens.read_write y

end Field.Takes

namespace Entity

/-- Whether two records have the same value for every field, or values that the
field takes. -/
def Alike (E : Type) [Entity E] (raw other : Json) : Prop :=
  ∀ field ∈ fields (E := E), rawValue raw field = rawValue other field ∨
    (∃ x, field.Takes (rawValue raw field) x) ∧ ∃ y, field.Takes (rawValue other field) y

variable [Lawful E] [Distinct E]

theorem normalMembers_eq_error_of_alike (hraw : raw.IsRecord) (hother : other.IsRecord)
    (halike : Alike E raw other) {cause : ApiError} (h : normalMembers E raw = .error cause) :
    normalMembers E other = .error cause := by
  obtain ⟨given, hgiven⟩ := (isRecord_iff (name E)).1 hraw
  obtain ⟨others, hothers⟩ := (isRecord_iff (name E)).1 hother
  rw [normalMembers_eq, hgiven] at h
  rw [normalMembers_eq, hothers]
  refine (foldlM_revise_eq_error_iff Distinct.revisions).2 ?_
  apply Outcome.mapM_eq_error_of_alike _ ((foldlM_revise_eq_error_iff Distinct.revisions).1 h)
  intro r hr
  obtain ⟨field, hfield, hname⟩ := Distinct.declared r hr
  rw [← hname, get?_merge_field hgiven hfield, get?_merge_field hothers hfield, Option.getD_some,
    Option.getD_some, ← normalValue_of_mem hr, ← normalValue_of_mem hr, ← hname]
  refine (halike field hfield).imp (congrArg _) fun htaken => ?_
  obtain ⟨⟨x, j, hj, -⟩, y, k, hk, -⟩ := htaken
  exact ⟨⟨j, hj⟩, k, hk⟩

variable [Separate E]

omit [Lawful E] [Distinct E] in
theorem ofRecord_eq_error_of_alike {members others : Members Json}
    (halike : ∀ field ∈ fields (E := E), ∃ j k, Members.get? members field.name = some j ∧
      Members.get? others field.name = some k ∧
        (j = k ∨ (∃ x, field.read j blank = .ok x) ∧ ∃ y, field.read k blank = .ok y))
    {cause : Json.Mismatch} (h : (ofRecord members : Except Json.Mismatch E) = .error cause) :
    (ofRecord others : Except Json.Mismatch E) = .error cause := by
  have hstep : ∀ value : Field E → Except Json.Mismatch Json, ∀ field ∈ fields (E := E),
      ∀ x y cause, (value field >>= fun j => field.read j x) = .error cause →
        (value field >>= fun j => field.read j y) = .error cause := by
    intro value field hfield x y cause h
    cases hvalue : value field with
    | error found =>
      rw [hvalue] at h
      exact h
    | ok j =>
      rw [hvalue] at h
      exact (Separate.faithful field hfield).lens.read_error h y
  rw [ofRecord_eq_foldlM, Outcome.foldlM_eq_error_iff (hstep _)] at h ⊢
  apply Outcome.mapM_eq_error_of_alike _ h
  intro field hfield
  obtain ⟨j, k, hj, hk, heq | hboth⟩ := halike field hfield
  · rw [hj, hk, heq]
    exact Or.inl rfl
  · rw [hj, hk]
    exact Or.inr hboth

/-- Hydration fails alike on records whose values are the same or are taken in
both of them. -/
theorem hydrate_eq_error_of_alike (hraw : raw.IsRecord) (hother : other.IsRecord)
    (halike : Alike E raw other)
    {cause : ApiError} (h : (hydrate raw : Except ApiError E) = .error cause) :
    (hydrate other : Except ApiError E) = .error cause := by
  rcases Outcome.bind_eq_error_iff.1 h with hnormal | ⟨members, hmembers, hread⟩
  · have hfault := normalMembers_eq_error_of_alike hraw hother halike hnormal
    exact Outcome.bind_eq_error_iff.2 (Or.inl hfault)
  · have hvalues : ∀ field ∈ fields (E := E), ∃ j k,
        normalValue E field.name (rawValue raw field) = .ok j ∧
          normalValue E field.name (rawValue other field) = .ok k ∧
            Members.get? members field.name = some j ∧
              (j = k ∨ (∃ x, field.read j blank = .ok x) ∧ ∃ y, field.read k blank = .ok y) := by
      intro field hfield
      obtain ⟨j, hj, hget⟩ := get?_of_normalMembers hmembers hfield
      rcases halike field hfield with heq | ⟨⟨x, j', hj', hx⟩, y, k, hk, hy⟩
      · exact ⟨j, j, hj, heq ▸ hj, hget, Or.inl rfl⟩
      · obtain rfl : j = j' := Except.ok.inj (hj.symm.trans hj')
        have hlens := (Separate.faithful field hfield).lens
        exact ⟨j, k, hj, hk, hget, Or.inr ⟨hlens.exists_read hx blank, hlens.exists_read hy blank⟩⟩
    obtain ⟨others, hothers⟩ : ∃ others, normalMembers E other = .ok others := by
      refine exists_normalMembers_iff.2 ⟨hother, fun field hfield => ?_⟩
      obtain ⟨j, k, -, hk, -⟩ := hvalues field hfield
      exact ⟨k, hk⟩
    refine Outcome.bind_eq_error_iff.2 (Or.inr ⟨others, hothers, ?_⟩)
    cases hmismatch : (ofRecord members : Except Json.Mismatch E) with
    | ok e =>
      rw [hmismatch] at hread
      cases hread
    | error mismatch =>
      rw [hmismatch] at hread
      rw [← hread]
      refine congrArg _ (ofRecord_eq_error_of_alike (fun field hfield => ?_) hmismatch)
      obtain ⟨j, k, -, hk, hget, hboth⟩ := hvalues field hfield
      obtain ⟨l, hl, hgetother⟩ := get?_of_normalMembers hothers hfield
      obtain rfl : k = l := Except.ok.inj (hk.symm.trans hl)
      exact ⟨j, k, hget, hgetother, hboth⟩

theorem hydrate_congr (hraw : raw.IsRecord) (hother : other.IsRecord)
    (hsame : ∀ field ∈ fields (E := E), rawValue raw field = rawValue other field ∨
      ∃ x, field.Takes (rawValue raw field) x ∧ field.Takes (rawValue other field) x) :
    (hydrate raw : Except ApiError E) = hydrate other := by
  have hok : ∀ {r s : Json} {e : E}, s.IsRecord →
      (∀ field ∈ fields (E := E), rawValue r field = rawValue s field ∨
        ∃ x, field.Takes (rawValue r field) x ∧ field.Takes (rawValue s field) x) →
      hydrate r = .ok e → hydrate s = .ok e := by
    intro r s e hs hsame he
    refine hydrate_eq_ok_iff.2 ⟨hs, fun field hfield => ?_⟩
    have hlens := (Separate.faithful field hfield).lens
    have htakes : field.Takes (rawValue r field) e := (hydrate_eq_ok_iff.1 he).2 field hfield
    rcases hsame field hfield with heq | ⟨x, hr, hs⟩
    · rw [← heq]
      exact htakes
    · exact hs.of_write_eq hlens (hr.write_eq hlens htakes)
  cases hhydrate : (hydrate raw : Except ApiError E) with
  | ok e => exact (hok hother hsame hhydrate).symm
  | error cause =>
    refine (hydrate_eq_error_of_alike hraw hother (fun field hfield => ?_) hhydrate).symm
    exact (hsame field hfield).imp_right fun ⟨x, hr, hs⟩ => ⟨⟨x, hr⟩, x, hs⟩

end Entity

end MerchantApi
