import MerchantApi.Text.Slash
import Mathlib.Data.List.DropRight
/-!
# Texts without slashes at their ends

A text is what is left of it without its trailing slashes, followed by some
slashes, and what is left does not end in a slash.  The same is true of leading
slashes, so that slashes that are put on at an end where they are dropped make no
difference.
-/

namespace MerchantApi.Text

/-! ## Lists that lose their end -/

section DropRight

variable {α : Type} {p : α → Bool}

theorem rdropWhile_append_cons {c : α} (hc : ¬ p c = true) (before after : List α) :
    (before ++ c :: after).rdropWhile p = before ++ c :: after.rdropWhile p := by
  induction after using List.reverseRecOn with
  | nil => exact List.rdropWhile_concat_neg _ _ _ hc
  | append_singleton after d ih =>
    rw [← List.cons_append, ← List.append_assoc, List.rdropWhile_concat, List.rdropWhile_concat,
      ih]
    split <;> simp

theorem rdropWhile_append (left right : List α) :
    (left ++ right).rdropWhile p =
      if right.rdropWhile p = [] then left.rdropWhile p else left ++ right.rdropWhile p := by
  simp only [List.rdropWhile, List.reverse_append, List.dropWhile_append, List.isEmpty_iff,
    List.reverse_eq_nil_iff]
  split
  · rfl
  · rw [List.reverse_append, List.reverse_reverse]

theorem mem_rdropWhile_iff {c : α} (hc : ¬ p c = true) (items : List α) :
    c ∈ items.rdropWhile p ↔ c ∈ items := by
  constructor
  · exact fun hmem => (List.rdropWhile_prefix p items).subset hmem
  · intro hmem
    obtain ⟨before, after, rfl⟩ := List.append_of_mem hmem
    rw [rdropWhile_append_cons hc]
    simp

end DropRight

/-! ## Trailing slashes -/

theorem toList_dropTrailingSlashes (s : String) :
    (dropTrailingSlashes s).toList = s.toList.rdropWhile (· = '/') :=
  String.toList_ofList

theorem exists_dropTrailingSlashes_append (s : String) :
    ∃ n, s.toList = (dropTrailingSlashes s).toList ++ List.replicate n '/' := by
  have hslashes : ∀ c ∈ s.toList.rtakeWhile (· = '/'), c = '/' := by
    intro c hc
    have hslash := List.mem_rtakeWhile_imp hc
    exact of_decide_eq_true hslash
  refine ⟨(s.toList.rtakeWhile (· = '/')).length, ?_⟩
  rw [toList_dropTrailingSlashes, ← List.eq_replicate_of_mem hslashes,
    List.rdropWhile_append_rtakeWhile]

theorem getLast?_dropTrailingSlashes (s : String) :
    (dropTrailingSlashes s).toList.getLast? ≠ some '/' := by
  rw [toList_dropTrailingSlashes]
  intro hlast
  have hne : s.toList.rdropWhile (· = '/') ≠ [] := by
    intro hnil
    rw [hnil] at hlast
    cases hlast
  rw [List.getLast?_eq_getLast_of_ne_nil hne] at hlast
  exact List.rdropWhile_last_not _ _ hne (decide_eq_true (Option.some.inj hlast))

theorem dropTrailingSlashes_idem (s : String) :
    dropTrailingSlashes (dropTrailingSlashes s) = dropTrailingSlashes s := by
  apply String.toList_injective
  rw [toList_dropTrailingSlashes, toList_dropTrailingSlashes, List.rdropWhile_idempotent]

/-! ## Slashes that are put on -/

def slashes (n : Nat) : String := String.ofList (List.replicate n '/')

theorem toList_slashes (n : Nat) : (slashes n).toList = List.replicate n '/' :=
  String.toList_ofList

theorem slashes_zero : slashes 0 = "" := rfl

theorem slashes_succ (n : Nat) : slashes (n + 1) = "/" ++ slashes n := by
  apply String.toList_injective
  rw [String.toList_append, toList_slashes, toList_slashes]
  rfl

private theorem rdropWhile_replicate_slash (n : Nat) :
    (List.replicate n '/').rdropWhile (· = '/') = [] := by
  rw [List.rdropWhile_eq_nil_iff]
  exact fun c hc => decide_eq_true (List.eq_of_mem_replicate hc)

theorem dropTrailingSlashes_append_slashes (s : String) (n : Nat) :
    dropTrailingSlashes (s ++ slashes n) = dropTrailingSlashes s := by
  apply String.toList_injective
  rw [toList_dropTrailingSlashes, toList_dropTrailingSlashes, String.toList_append,
    toList_slashes, rdropWhile_append, if_pos (rdropWhile_replicate_slash n)]

/-- Slashes in front stay, unless nothing but slashes stands behind them. -/
theorem exists_dropTrailingSlashes_slashes_append (n : Nat) (s : String) :
    ∃ k, dropTrailingSlashes (slashes n ++ s) = slashes k ++ dropTrailingSlashes s := by
  by_cases hempty : s.toList.rdropWhile (· = '/') = []
  · refine ⟨0, String.toList_injective ?_⟩
    rw [String.toList_append, toList_dropTrailingSlashes, toList_dropTrailingSlashes,
      String.toList_append, toList_slashes, rdropWhile_append, if_pos hempty, hempty,
      rdropWhile_replicate_slash, toList_slashes, List.replicate_zero, List.nil_append]
  · refine ⟨n, String.toList_injective ?_⟩
    rw [String.toList_append, toList_dropTrailingSlashes, toList_dropTrailingSlashes,
      String.toList_append, toList_slashes, rdropWhile_append, if_neg hempty]

/-! ## Leading slashes -/

theorem toList_dropLeadingSlashes (s : String) :
    (dropLeadingSlashes s).toList = s.toList.dropWhile (· = '/') :=
  String.toList_ofList

theorem exists_append_dropLeadingSlashes (s : String) :
    ∃ n, s.toList = List.replicate n '/' ++ (dropLeadingSlashes s).toList := by
  have hslashes : ∀ c ∈ s.toList.takeWhile (· = '/'), c = '/' := by
    intro c hc
    have hslash := List.mem_takeWhile_imp hc
    exact of_decide_eq_true hslash
  refine ⟨(s.toList.takeWhile (· = '/')).length, ?_⟩
  rw [toList_dropLeadingSlashes, ← List.eq_replicate_of_mem hslashes,
    List.takeWhile_append_dropWhile]

theorem head?_dropLeadingSlashes (s : String) :
    (dropLeadingSlashes s).toList.head? ≠ some '/' := by
  rw [toList_dropLeadingSlashes]
  intro hhead
  have hslash := List.head?_dropWhile_not (· = '/') s.toList
  rw [hhead] at hslash
  cases hslash

theorem dropLeadingSlashes_slashes_append (n : Nat) (s : String) :
    dropLeadingSlashes (slashes n ++ s) = dropLeadingSlashes s := by
  apply String.toList_injective
  rw [toList_dropLeadingSlashes, toList_dropLeadingSlashes, String.toList_append, toList_slashes,
    List.dropWhile_append_of_pos]
  exact fun c hc => decide_eq_true (List.eq_of_mem_replicate hc)

end MerchantApi.Text
