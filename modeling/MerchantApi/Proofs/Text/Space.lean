import MerchantApi.Text.Space
import MerchantApi.Proofs.Text.Slash
/-!
# Trimmed texts

A text that is not blank is what is left of it when it is trimmed, with white
space around it, and what is left neither begins nor ends in white space.
-/

namespace MerchantApi.Text

/-- A text that begins and ends in characters other than white space. -/
structure Trimmed (cs : List Char) : Prop where
  head : ∃ c ∈ cs.head?, isSpace c = false
  last : ∃ c ∈ cs.getLast?, isSpace c = false

def Spaces (cs : List Char) : Prop := ∀ c ∈ cs, isSpace c = true

theorem isBlank_iff {cs : List Char} : isBlank cs = true ↔ Spaces cs := List.all_eq_true

theorem trim_eq (cs : List Char) : trim cs = (cs.dropWhile isSpace).rdropWhile isSpace := rfl

theorem Trimmed.not_spaces {cs : List Char} (h : Trimmed cs) (left right : List Char) :
    ¬ Spaces (left ++ cs ++ right) := by
  obtain ⟨c, hc, hspace⟩ := h.head
  intro hspaces
  have hmem : c ∈ left ++ cs ++ right := by simp [List.mem_of_mem_head? hc]
  rw [hspaces c hmem] at hspace
  cases hspace

theorem Trimmed.rdropWhile {cs : List Char} (h : Trimmed cs) : cs.rdropWhile isSpace = cs := by
  rw [List.rdropWhile_eq_self_iff]
  intro hne
  obtain ⟨c, hc, hspace⟩ := h.last
  obtain rfl : cs.getLast hne = c :=
    Option.some.inj ((List.getLast?_eq_getLast_of_ne_nil hne).symm.trans hc)
  rw [hspace]
  exact Bool.false_ne_true

theorem trim_append {left kept right : List Char} (hleft : Spaces left) (hkept : Trimmed kept)
    (hright : Spaces right) : trim (left ++ kept ++ right) = kept := by
  have hfirst : (kept ++ right).dropWhile isSpace = kept ++ right := by
    obtain ⟨c, hc, hspace⟩ := hkept.head
    obtain ⟨rest, rfl⟩ := List.head?_eq_some_iff.1 hc
    exact List.dropWhile_cons_of_neg (by rw [hspace]; exact Bool.false_ne_true)
  rw [trim_eq, List.append_assoc, List.dropWhile_append_of_pos hleft, hfirst,
    rdropWhile_append, if_pos (List.rdropWhile_eq_nil_iff.2 hright), hkept.rdropWhile]

/-- A text that is not blank is a trimmed one with white space around it. -/
theorem exists_trim {cs : List Char} (h : ¬ Spaces cs) :
    Trimmed (trim cs) ∧ ∃ left right, Spaces left ∧ Spaces right ∧
      cs = left ++ trim cs ++ right := by
  cases hcs : cs.dropWhile isSpace with
  | nil => exact absurd (List.dropWhile_eq_nil_iff.1 hcs) h
  | cons c rest =>
    have hspace : isSpace c = false := by
      have hhead := List.head?_dropWhile_not isSpace cs
      rw [hcs] at hhead
      exact hhead
    have htrim : trim cs = c :: rest.rdropWhile isSpace := by
      rw [trim_eq, hcs]
      exact rdropWhile_append_cons (by rw [hspace]; exact Bool.false_ne_true) [] rest
    refine ⟨⟨⟨c, by rw [htrim]; rfl, hspace⟩, ?_⟩, cs.takeWhile isSpace,
      (cs.dropWhile isSpace).rtakeWhile isSpace, fun _ => List.mem_takeWhile_imp,
      fun _ => List.mem_rtakeWhile_imp, ?_⟩
    · have hne : (cs.dropWhile isSpace).rdropWhile isSpace ≠ [] := by
        rw [← trim_eq, htrim]
        exact List.cons_ne_nil _ _
      exact ⟨_, List.getLast?_eq_getLast_of_ne_nil hne,
        eq_false_of_ne_true (List.rdropWhile_last_not _ _ hne)⟩
    · rw [List.append_assoc, trim_eq, List.rdropWhile_append_rtakeWhile,
        List.takeWhile_append_dropWhile]

end MerchantApi.Text
