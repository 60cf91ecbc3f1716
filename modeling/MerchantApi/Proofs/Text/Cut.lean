import Mathlib.Data.List.Infix
import Mathlib.Data.List.TakeWhile
/-!
# Texts cut at a mark

A text is cut where a mark stands first: before it the mark does not occur, and what
follows the mark is of no account.  A mark is one character, or several of which the
first one comes only once.
-/

namespace MerchantApi.Text

variable {mark : Char} {before cs : List Char}

private theorem ne_of_not_mem (h : mark ∉ before) : ∀ c ∈ before, decide (c ≠ mark) = true :=
  fun _ hc => decide_eq_true fun heq => h (heq ▸ hc)

theorem takeWhile_ne_append_cons (h : mark ∉ before) (after : List Char) :
    (before ++ mark :: after).takeWhile (· ≠ mark) = before := by
  rw [List.takeWhile_append_of_pos (ne_of_not_mem h), List.takeWhile_cons_of_neg (by simp),
    List.append_nil]

theorem dropWhile_ne_append_cons (h : mark ∉ before) (after : List Char) :
    (before ++ mark :: after).dropWhile (· ≠ mark) = mark :: after := by
  rw [List.dropWhile_append_of_pos (ne_of_not_mem h), List.dropWhile_cons_of_neg (by simp)]

theorem dropWhile_ne_eq_nil (h : mark ∉ cs) : cs.dropWhile (· ≠ mark) = [] :=
  List.dropWhile_eq_nil_iff.2 (ne_of_not_mem h)

/-! ## Marks of several characters -/

section Infix

variable {α : Type} {first : α} {rest before left after : List α}

/-- A mark that does not start among some characters stands behind them. -/
theorem infix_of_infix_append (hfirst : first ∉ before) (h : first :: rest <:+: before ++ after) :
    first :: rest <:+: after := by
  induction before with
  | nil => exact h
  | cons b before ih =>
    rw [List.mem_cons, not_or] at hfirst
    rw [List.cons_append, List.infix_cons_iff] at h
    rcases h with hstart | hinside
    · rw [List.cons_prefix_cons] at hstart
      exact absurd hstart.1 hfirst.1
    · exact ih hfirst.2 hinside

/-- A mark whose first character comes only once overlaps with nothing that it does not
occur in. -/
theorem not_prefix_append_mark (hfirst : first ∉ rest) (h : ¬ first :: rest <:+: left)
    (hne : left ≠ []) : ¬ first :: rest <+: left ++ (first :: rest) := by
  intro hstart
  rcases Nat.le_total (first :: rest).length left.length with hlong | hshort
  · exact h (List.prefix_of_prefix_length_le hstart (List.prefix_append _ _) hlong).isInfix
  · obtain ⟨beyond, hover⟩ := List.prefix_of_prefix_length_le (List.prefix_append _ _) hstart hshort
    obtain ⟨c, cs, rfl⟩ := List.exists_cons_of_ne_nil hne
    rw [List.cons_append, List.cons.injEq] at hover
    obtain ⟨rfl, rfl⟩ := hover
    -- What is left of the mark behind `left` would start with the first character again.
    cases beyond with
    | nil =>
      rw [List.append_nil] at h
      exact h List.infix_rfl
    | cons d beyond =>
      rw [← List.cons_append, List.prefix_append_right_inj] at hstart
      obtain ⟨tail, htail⟩ := hstart
      obtain rfl := (List.cons.inj htail).1
      exact hfirst (by simp)

variable [BEq α] [LawfulBEq α]

/-- A text is cut at such a mark where the mark does not occur before. -/
theorem dropInfix?_append (hfirst : first ∉ rest) (h : ¬ first :: rest <:+: before)
    (after : List α) :
    (before ++ first :: rest ++ after).dropInfix? (first :: rest) = some (before, after) := by
  rw [List.dropInfix?_eq_some_iff]
  refine ⟨⟨_, rfl, BEq.rfl⟩, fun shorter mark behind hsplit hmark => ?_⟩
  obtain rfl := LawfulBEq.eq_of_beq hmark
  by_contra hlt
  have hwhole : before <+: shorter ++ (first :: rest) ++ behind :=
    ⟨(first :: rest) ++ after, by rw [← hsplit, List.append_assoc]⟩
  have hshorter : shorter <+: shorter ++ (first :: rest) ++ behind :=
    ⟨(first :: rest) ++ behind, (List.append_assoc ..).symm⟩
  obtain ⟨left, rfl⟩ := List.prefix_of_prefix_length_le hshorter hwhole (by omega)
  have hne : left ≠ [] := by
    rintro rfl
    simp at hlt
  have hmark : first :: rest <+: left ++ (first :: rest) ++ after := by
    refine ⟨behind, ?_⟩
    simpa only [List.append_assoc, List.append_cancel_left_eq] using hsplit.symm
  have hleft : ¬ first :: rest <:+: left :=
    fun hinside => h (hinside.trans (List.suffix_append _ _).isInfix)
  exact not_prefix_append_mark hfirst hleft hne
    (List.prefix_of_prefix_length_le hmark (List.prefix_append _ _) (by simp))

end Infix

end MerchantApi.Text
