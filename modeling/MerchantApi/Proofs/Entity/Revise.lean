import MerchantApi.Entity.Hydration
import MerchantApi.Proofs.Outcome
/-!
# Revised members

Values of a record are revised one after the other, each under its own name.
What comes of a value hangs on nothing but the value that was there at first.
-/

namespace MerchantApi.Entity

abbrev Revision := String × (Json → Except ApiError Json)

def revise (record : Members Json) (r : Revision) : Except ApiError (Members Json) :=
  (r.2 ((Members.get? record r.1).getD .null)).map fun j => Members.insert r.1 j record

variable {revisions : List Revision} {members : Members Json}

/-- Revisions of distinct names find the values that were there at first. -/
theorem get?_of_foldlM_revise (hdistinct : revisions.Pairwise fun r s => r.1 ≠ s.1)
    {next : Members Json} (h : revisions.foldlM revise members = .ok next) :
    (∀ name, (∀ r ∈ revisions, r.1 ≠ name) →
      Members.get? next name = Members.get? members name) ∧
    ∀ r ∈ revisions, ∃ j, r.2 ((Members.get? members r.1).getD .null) = .ok j ∧
      Members.get? next r.1 = some j := by
  induction revisions generalizing members with
  | nil =>
    obtain rfl := Except.ok.inj h
    exact ⟨fun _ _ => rfl, nofun⟩
  | cons first revisions ih =>
    rw [List.foldlM_cons, Outcome.bind_eq_ok_iff] at h
    obtain ⟨after, hfirst, hrest⟩ := h
    obtain ⟨j, hj, rfl⟩ := Outcome.map_eq_ok_iff.1 hfirst
    obtain ⟨hothers, hrevised⟩ := ih hdistinct.of_cons hrest
    have hne : ∀ r ∈ revisions, first.1 ≠ r.1 := fun r => List.rel_of_pairwise_cons hdistinct
    constructor
    · intro name hname
      obtain ⟨hhead, htail⟩ := List.forall_mem_cons.1 hname
      rw [hothers name htail, Members.get?_insert, if_neg hhead]
    · refine List.forall_mem_cons.2 ⟨⟨j, hj, ?_⟩, fun r hr => ?_⟩
      · rw [hothers first.1 fun r hr => (hne r hr).symm, Members.get?_insert, if_pos rfl]
      · obtain ⟨k, hk, hget⟩ := hrevised r hr
        rw [Members.get?_insert, if_neg (hne r hr)] at hk
        exact ⟨k, hk, hget⟩

theorem exists_foldlM_revise (hdistinct : revisions.Pairwise fun r s => r.1 ≠ s.1)
    (h : ∀ r ∈ revisions, ∃ j, r.2 ((Members.get? members r.1).getD .null) = .ok j) :
    ∃ next, revisions.foldlM revise members = .ok next := by
  induction revisions generalizing members with
  | nil => exact ⟨members, rfl⟩
  | cons first revisions ih =>
    obtain ⟨⟨j, hj⟩, hrest⟩ := List.forall_mem_cons.1 h
    have hfirst : revise members first = .ok (Members.insert first.1 j members) := by
      rw [revise, hj]
      rfl
    have hlater : ∀ r ∈ revisions, ∃ k,
        r.2 ((Members.get? (Members.insert first.1 j members) r.1).getD .null) = .ok k := by
      intro r hr
      rw [Members.get?_insert, if_neg (List.rel_of_pairwise_cons hdistinct hr)]
      exact hrest r hr
    obtain ⟨next, hnext⟩ := ih hdistinct.of_cons hlater
    exact ⟨next, by rw [List.foldlM_cons, hfirst]; exact hnext⟩

/-- Revisions of distinct names fail as they do on the values that were there at first. -/
theorem foldlM_revise_eq_error_iff (hdistinct : revisions.Pairwise fun r s => r.1 ≠ s.1)
    {cause : ApiError} :
    revisions.foldlM revise members = .error cause ↔
      revisions.mapM (fun r => r.2 ((Members.get? members r.1).getD .null)) = .error cause := by
  induction revisions generalizing members with
  | nil => exact ⟨nofun, nofun⟩
  | cons first revisions ih =>
    rw [List.foldlM_cons, Outcome.mapM_cons_eq_error_iff, revise]
    cases hfirst : first.2 ((Members.get? members first.1).getD .null) with
    | error other =>
      constructor
      · exact fun h => Or.inl (congrArg Except.error (Except.error.inj h))
      · rintro (h | ⟨_, hnone, -⟩)
        · exact congrArg Except.error (Except.error.inj h)
        · cases hnone
    | ok j =>
      have hlater : ∀ r ∈ revisions,
          r.2 ((Members.get? (Members.insert first.1 j members) r.1).getD .null) =
            r.2 ((Members.get? members r.1).getD .null) := by
        intro r hr
        rw [Members.get?_insert, if_neg (List.rel_of_pairwise_cons hdistinct hr)]
      refine (ih hdistinct.of_cons).trans ?_
      rw [Outcome.mapM_eq_error_congr fun r hr => Or.inl (hlater r hr)]
      exact ⟨fun h => Or.inr ⟨j, rfl, h⟩, fun h => (h.resolve_left nofun).choose_spec.2⟩

theorem find?_of_mem {r : Revision}
    (hdistinct : revisions.Pairwise fun r s => r.1 ≠ s.1) (hr : r ∈ revisions) :
    revisions.find? (fun s => s.1 = r.1) = some r := by
  induction revisions with
  | nil => cases hr
  | cons first revisions ih =>
    rcases List.mem_cons.1 hr with rfl | hr
    · simp
    · have hne : first.1 ≠ r.1 := List.rel_of_pairwise_cons hdistinct hr
      simp [hne, ih hdistinct.of_cons hr]

end MerchantApi.Entity
