import MerchantApi.Text.Quoted
import Mathlib.Data.List.Basic
/-!
# Quoted texts stay on one line

A text that a message cites is written without line breaks, and so is a number.
-/

namespace MerchantApi.Text

private theorem digitChar_ne_newline {digit : Nat} (h : digit < 16) : digit.digitChar ≠ '\n' := by
  revert digit
  decide

theorem newline_not_mem_toDigits {base : Nat} (hlow : 1 < base) (hhigh : base ≤ 16) (n : Nat) :
    '\n' ∉ Nat.toDigits base n := by
  induction n using Nat.strongRecOn with
  | ind n ih =>
    by_cases hn : n < base
    · rw [Nat.toDigits_of_lt_base hn, List.mem_singleton]
      exact (digitChar_ne_newline (by omega)).symm
    · have hlast : n % base < base := Nat.mod_lt n (by omega)
      rw [Nat.toDigits_of_base_le hlow (Nat.le_of_not_lt hn), List.mem_append,
        List.mem_singleton, not_or]
      exact ⟨ih (n / base) (Nat.div_lt_self (by omega) hlow),
        (digitChar_ne_newline (by omega)).symm⟩

theorem newline_not_mem_toString (n : Nat) : '\n' ∉ (toString n).toList := by
  rw [Nat.toString_eq_ofList_toDigits, String.toList_ofList]
  exact newline_not_mem_toDigits (by decide) (by decide) n

theorem newline_not_mem_cited (c : Char) : '\n' ∉ cited c := by
  have hdigits : '\n' ∉ Nat.toDigits 16 c.toNat :=
    newline_not_mem_toDigits (by decide) (by decide) c.toNat
  unfold cited
  split_ifs with _ _ hnewline
  iterate 6 decide
  · simpa only [List.mem_cons, List.mem_append, hdigits, Char.reduceEq, List.not_mem_nil,
      or_false, false_or] using not_false
  · rw [List.mem_singleton]
    exact Ne.symm hnewline

theorem newline_not_mem_quoted (s : String) : '\n' ∉ (quoted s).toList := by
  rw [quoted, String.toList_ofList]
  simp [newline_not_mem_cited]

end MerchantApi.Text
