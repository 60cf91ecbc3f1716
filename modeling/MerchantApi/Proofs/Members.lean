import MerchantApi.Members
import Mathlib.Data.String.Basic
/-!
# Look-up in named members

Members in increasing order of their names are determined by what is looked up
in them.  Inserting and overlaying keep that order whatever is put in, so a
source may be in any order and may repeat names.
-/

namespace MerchantApi.Members

variable {α : Type} {members target source : Members α}

/-! ## Membership -/

theorem mem_of_get? {name : String} {value : α} (h : get? members name = some value) :
    (name, value) ∈ members := by
  induction members with
  | nil => simp at h
  | cons entry rest ih =>
    obtain ⟨n, v⟩ := entry
    rw [get?_cons] at h
    split at h
    · rename_i hn
      cases h
      simp [hn]
    · exact List.mem_cons_of_mem _ (ih h)

theorem get?_eq_none_iff {name : String} :
    get? members name = none ↔ ∀ value, (name, value) ∉ members := by
  constructor
  · intro h value hmem
    induction members with
    | nil => simp at hmem
    | cons entry rest ih =>
      obtain ⟨n, v⟩ := entry
      rw [get?_cons] at h
      split at h
      · simp at h
      · rename_i hn
        rcases List.mem_cons.1 hmem with heq | hmem
        · exact hn (congrArg Prod.fst heq).symm
        · exact ih h hmem
  · intro h
    rw [Option.eq_none_iff_forall_ne_some]
    exact fun value hget => h value (mem_of_get? hget)

theorem get?_append (left right : Members α) (name : String) :
    get? (left ++ right) name = (get? left name).or (get? right name) := by
  induction left with
  | nil => rfl
  | cons entry rest ih =>
    obtain ⟨n, v⟩ := entry
    rw [List.cons_append, get?_cons, get?_cons, ih]
    split <;> rfl

private theorem mem_insert {name : String} {value : α} {entry : String × α}
    (h : entry ∈ insert name value members) : entry = (name, value) ∨ entry ∈ members := by
  induction members with
  | nil => simpa [insert] using h
  | cons head rest ih =>
    obtain ⟨n, v⟩ := head
    rw [insert] at h
    split at h
    · simpa using h
    · split at h
      · rcases List.mem_cons.1 h with h | h
        · exact Or.inl h
        · exact Or.inr (List.mem_cons_of_mem _ h)
      · rcases List.mem_cons.1 h with h | h
        · exact Or.inr (h ▸ List.mem_cons_self)
        · exact (ih h).imp_right (List.mem_cons_of_mem _)

/-! ## Order -/

theorem Sorted.tail {entry : String × α} (h : Sorted (entry :: members)) : Sorted members :=
  h.of_cons

theorem Sorted.get?_of_mem (h : Sorted members) {name : String} {value : α}
    (hmem : (name, value) ∈ members) : get? members name = some value := by
  induction members with
  | nil => simp at hmem
  | cons entry rest ih =>
    obtain ⟨n, v⟩ := entry
    rw [get?_cons]
    rcases List.mem_cons.1 hmem with heq | hmem
    · cases heq
      exact if_pos rfl
    · have hlt : n < name := List.rel_of_pairwise_cons h hmem
      rw [if_neg hlt.ne]
      exact ih h.tail hmem

theorem Sorted.get?_eq_some_iff (h : Sorted members) {name : String} {value : α} :
    get? members name = some value ↔ (name, value) ∈ members :=
  ⟨mem_of_get?, h.get?_of_mem⟩

theorem Sorted.insert (h : Sorted members) (name : String) (value : α) :
    Sorted (insert name value members) := by
  induction members with
  | nil => exact List.pairwise_singleton _ _
  | cons head rest ih =>
    obtain ⟨n, v⟩ := head
    rw [Members.insert]
    split
    · rename_i hlt
      refine List.pairwise_cons.2 ⟨fun entry hentry => ?_, h⟩
      rcases List.mem_cons.1 hentry with rfl | hentry
      · exact hlt
      · exact hlt.trans (List.rel_of_pairwise_cons h hentry)
    · split
      · rename_i heq
        subst heq
        exact List.pairwise_cons.2 ⟨fun entry => List.rel_of_pairwise_cons h, h.tail⟩
      · rename_i hle hne
        refine List.pairwise_cons.2 ⟨fun entry hentry => ?_, ih h.tail⟩
        rcases mem_insert hentry with rfl | hentry
        · exact lt_of_le_of_ne (not_lt.1 hle) (Ne.symm hne)
        · exact List.rel_of_pairwise_cons h hentry

theorem Sorted.overlay (h : Sorted target) (source : Members α) :
    Sorted (overlay target source) := by
  induction source generalizing target with
  | nil => exact h
  | cons entry rest ih => exact ih (h.insert entry.1 entry.2)

theorem Sorted.filter (h : Sorted members) (p : String × α → Bool) :
    Sorted (members.filter p) :=
  List.Pairwise.filter p h

theorem Sorted.map {β : Type} (h : Sorted members) (f : String → α → β) :
    Sorted (members.map fun entry => (entry.1, f entry.1 entry.2)) :=
  List.pairwise_map.2 h

theorem Sorted.ext (hleft : Sorted target) (hright : Sorted source)
    (h : ∀ name, get? target name = get? source name) : target = source := by
  have hmem : ∀ entry, entry ∈ target ↔ entry ∈ source := by
    rintro ⟨name, value⟩
    rw [← hleft.get?_eq_some_iff, ← hright.get?_eq_some_iff, h]
  have hperm : target.Perm source :=
    (List.perm_ext_iff_of_nodup (hleft.imp fun hlt heq => hlt.ne (congrArg Prod.fst heq))
      (hright.imp fun hlt heq => hlt.ne (congrArg Prod.fst heq))).2 hmem
  exact hperm.eq_of_pairwise (fun a b _ _ hab hba => absurd hba hab.asymm) hleft hright

/-! ## Look-up after a change -/

theorem Sorted.insert_self (h : Sorted members) {name : String} {value : α}
    (hget : get? members name = some value) : Members.insert name value members = members := by
  refine (h.insert name value).ext h fun other => ?_
  rw [get?_insert]
  split
  · rename_i heq
    rw [← heq, hget]
  · rfl

/-- Of a name that the source repeats the last value counts. -/
theorem get?_overlay (target source : Members α) (name : String) :
    get? (overlay target source) name = (get? source.reverse name).or (get? target name) := by
  induction source generalizing target with
  | nil => rfl
  | cons entry rest ih =>
    obtain ⟨n, v⟩ := entry
    rw [List.reverse_cons, get?_append, get?_cons, Option.or_assoc]
    refine (ih (Members.insert n v target)).trans ?_
    rw [get?_insert]
    split <;> simp

theorem Sorted.get?_reverse (h : Sorted members) (name : String) :
    get? members.reverse name = get? members name := by
  cases hget : get? members name with
  | none =>
    rw [get?_eq_none_iff] at hget ⊢
    exact fun value hmem => hget value (List.mem_reverse.1 hmem)
  | some value =>
    cases hback : get? members.reverse name with
    | none =>
      rw [get?_eq_none_iff] at hback
      exact absurd (List.mem_reverse.2 (mem_of_get? hget)) (hback value)
    | some other =>
      rw [← hget, h.get?_of_mem (List.mem_reverse.1 (mem_of_get? hback))]

theorem Sorted.get?_overlay (h : Sorted source) (target : Members α) (name : String) :
    get? (Members.overlay target source) name = (get? source name).or (get? target name) := by
  rw [Members.get?_overlay, h.get?_reverse]

theorem sorted_ofList (pairs : List (String × α)) : Sorted (ofList pairs) :=
  Sorted.overlay List.Pairwise.nil pairs

theorem get?_ofList (pairs : List (String × α)) (name : String) :
    get? (ofList pairs) name = get? pairs.reverse name := by
  rw [ofList, Members.get?_overlay, get?_nil, Option.or_none]

theorem Sorted.ofList_eq (h : Sorted members) : ofList members = members :=
  (sorted_ofList members).ext h fun name => by rw [get?_ofList, h.get?_reverse]

theorem Sorted.get?_filter (h : Sorted members) (p : String × α → Bool) (name : String) :
    get? (members.filter p) name = (get? members name).filter fun value => p (name, value) := by
  cases hget : get? members name with
  | none =>
    rw [get?_eq_none_iff] at hget
    rw [Option.filter_none, get?_eq_none_iff]
    exact fun value hmem => hget value (List.mem_filter.1 hmem).1
  | some value =>
    have hmem := mem_of_get? hget
    by_cases hp : p (name, value) = true
    · rw [Option.filter_some, if_pos hp]
      exact (h.filter p).get?_of_mem (List.mem_filter.2 ⟨hmem, hp⟩)
    · rw [Option.filter_some, if_neg hp, get?_eq_none_iff]
      intro other hother
      obtain ⟨hin, hpo⟩ := List.mem_filter.1 hother
      have hsame : some value = some other := by rw [← hget, h.get?_of_mem hin]
      cases hsame
      exact hp hpo

theorem get?_filter_name (keep : String → Bool) (members : Members α) (name : String) :
    get? (members.filter fun entry => keep entry.1) name =
      if keep name then get? members name else none := by
  induction members with
  | nil => simp
  | cons entry rest ih =>
    obtain ⟨n, v⟩ := entry
    by_cases hkeep : keep n = true
    · rw [List.filter_cons, if_pos hkeep, get?_cons, get?_cons, ih]
      by_cases hn : n = name
      · rw [if_pos hn, if_pos hn, ← hn, if_pos hkeep]
      · rw [if_neg hn, if_neg hn]
    · rw [List.filter_cons, if_neg hkeep, ih, get?_cons]
      by_cases hn : n = name
      · rw [← hn, if_neg hkeep, if_neg hkeep]
      · rw [if_neg hn]

theorem get?_map {β : Type} (f : String → α → β) (members : Members α) (name : String) :
    get? (members.map fun entry => (entry.1, f entry.1 entry.2)) name =
      (get? members name).map (f name) := by
  induction members with
  | nil => rfl
  | cons entry rest ih =>
    obtain ⟨n, v⟩ := entry
    rw [List.map_cons, get?_cons, get?_cons, ih]
    by_cases hn : n = name
    · rw [if_pos hn, if_pos hn, hn, Option.map_some]
    · rw [if_neg hn, if_neg hn]

theorem find?_name (members : Members α) (name : String) :
    (members.find? fun entry => entry.1 = name).map Prod.snd = get? members name := by
  induction members with
  | nil => rfl
  | cons entry rest ih =>
    obtain ⟨n, v⟩ := entry
    rw [List.find?_cons, get?_cons, ← ih]
    by_cases hn : n = name <;> simp [hn]

theorem countP_name_eq_zero_iff (name : String) :
    (members.countP fun entry => entry.1 = name) = 0 ↔ get? members name = none := by
  rw [List.countP_eq_zero, get?_eq_none_iff]
  constructor
  · intro h value hmem
    exact h (name, value) hmem (decide_eq_true rfl)
  · rintro h ⟨n, v⟩ hmem hn
    obtain rfl : n = name := of_decide_eq_true hn
    exact h v hmem

theorem mem_of_get?_overlay {name : String} {value : α}
    (h : get? (overlay target source) name = some value) :
    (name, value) ∈ source ∨ get? target name = some value := by
  rw [get?_overlay, Option.or_eq_some_iff] at h
  rcases h with h | ⟨-, h⟩
  · exact Or.inl (List.mem_reverse.1 (mem_of_get? h))
  · exact Or.inr h

theorem isSome_get?_overlay {name : String} (h : (get? target name).isSome) :
    (get? (overlay target source) name).isSome := by
  rw [get?_overlay, Option.isSome_or, h, Bool.or_true]

end MerchantApi.Members
