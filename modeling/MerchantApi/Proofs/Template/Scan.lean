import MerchantApi.Template
import Mathlib.Data.List.TakeWhile
import Mathlib.Tactic.Tauto
/-!
# Placeholders in a text

A placeholder is a name in braces.  The scan finds a placeholder wherever one
stands: a name holds no brace, so no placeholder reaches across the opening
brace of another one, whatever stands before it.
-/

namespace MerchantApi

namespace Piece

/-! ## Names -/

def OpensName (c : Char) : Prop :=
  ('a' ≤ c ∧ c ≤ 'z') ∨ ('A' ≤ c ∧ c ≤ 'Z') ∨ c = '_'

/-- A name is a letter or an underscore, followed by letters, digits and
underscores, all of them ASCII. -/
def IsName : List Char → Prop
  | [] => False
  | c :: cs => OpensName c ∧ ∀ d ∈ cs, OpensName d ∨ ('0' ≤ d ∧ d ≤ '9')

private theorem startsName_iff (c : Char) : startsName c = true ↔ OpensName c := by
  have hlower : c.isLower = true ↔ 'a' ≤ c ∧ c ≤ 'z' := by
    change (decide ('a'.val ≤ c.val) && decide (c.val ≤ 'z'.val)) = true ↔ _
    rw [Bool.and_eq_true, decide_eq_true_eq, decide_eq_true_eq, Char.le_def, Char.le_def]
  have hupper : c.isUpper = true ↔ 'A' ≤ c ∧ c ≤ 'Z' := by
    change decide ('A'.val ≤ c.val ∧ c.val ≤ 'Z'.val) = true ↔ _
    rw [decide_eq_true_eq, Char.le_def, Char.le_def]
  change ((c.isUpper || c.isLower) || decide (c = '_')) = true ↔ _
  rw [Bool.or_eq_true, Bool.or_eq_true, hlower, hupper, decide_eq_true_eq, OpensName]
  tauto

private theorem continuesName_iff (c : Char) :
    continuesName c = true ↔ OpensName c ∨ ('0' ≤ c ∧ c ≤ '9') := by
  rw [← startsName_iff]
  simp only [continuesName, startsName, Char.isAlphanum, Char.isDigit, Bool.or_eq_true,
    Bool.and_eq_true, decide_eq_true_eq, Char.le_def, ge_iff_le]
  tauto

theorem isName_cons_iff (c : Char) (cs : List Char) :
    IsName (c :: cs) ↔ startsName c = true ∧ ∀ d ∈ cs, continuesName d = true := by
  simp only [IsName, startsName_iff, continuesName_iff]

/-! ## The placeholder that opens a text -/

theorem IsName.continuesName {name : List Char} (h : IsName name) {d : Char} (hd : d ∈ name) :
    continuesName d = true := by
  obtain _ | ⟨c, cs⟩ := name
  · exact h.elim
  obtain ⟨hopens, hcontinues⟩ := h
  rw [continuesName_iff]
  rcases List.mem_cons.1 hd with rfl | hd
  · exact Or.inl hopens
  · exact hcontinues d hd

theorem source_ne_nil (p : Piece) : p.source ≠ [] := by
  cases p <;> exact List.cons_ne_nil _ _

theorem hole?_eq_some_iff {cs name rest : List Char} :
    hole? cs = some (name, rest) ↔ IsName name ∧ cs = source (.hole name) ++ rest := by
  constructor
  · intro h
    unfold hole? at h
    split at h
    · rename_i c cs
      split at h
      · rename_i hstarts
        split at h
        · rename_i tail hd
          simp only [Option.some.injEq, Prod.mk.injEq] at h
          obtain ⟨rfl, rfl⟩ := h
          refine ⟨(isName_cons_iff _ _).2 ⟨hstarts, fun d hd => List.mem_takeWhile_imp hd⟩, ?_⟩
          have hsplit := List.takeWhile_append_dropWhile (p := continuesName) (l := cs)
          rw [hd] at hsplit
          simp [source, hsplit]
        · simp at h
      · simp at h
    · simp at h
  · rintro ⟨hname, rfl⟩
    obtain _ | ⟨c, cs⟩ := name
    · exact hname.elim
    obtain ⟨hstarts, hcontinues⟩ := (isName_cons_iff c cs).1 hname
    have hclose : ¬ continuesName '}' = true := by decide
    have htake : (cs ++ '}' :: rest).takeWhile continuesName = cs := by
      rw [List.takeWhile_append_of_pos hcontinues, List.takeWhile_cons_of_neg hclose,
        List.append_nil]
    have hdrop : (cs ++ '}' :: rest).dropWhile continuesName = '}' :: rest := by
      rw [List.dropWhile_append_of_pos hcontinues, List.dropWhile_cons_of_neg hclose]
    simp [source, hole?, hstarts, htake, hdrop]

/-- A character that neither belongs to a name nor closes one ends the search for
a placeholder that opens the text before it. -/
theorem hole?_append_cons {c : Char} (hname : continuesName c = false) (hclose : c ≠ '}')
    {before : List Char} (hbefore : before ≠ []) (after : List Char) :
    hole? (before ++ c :: after) =
      (hole? before).map fun found => (found.1, found.2 ++ c :: after) := by
  apply Option.ext
  rintro ⟨name, rest⟩
  rw [Option.map_eq_some_iff, hole?_eq_some_iff]
  constructor
  · rintro ⟨hisName, heq⟩
    obtain ⟨d, before, rfl⟩ := List.exists_cons_of_ne_nil hbefore
    simp only [source, List.cons_append, List.append_assoc, List.nil_append] at heq
    obtain ⟨rfl, hrest⟩ := List.cons.inj heq
    rcases List.append_eq_append_iff.1 hrest with ⟨part, hpart, htail⟩ | ⟨part, hpart, htail⟩
    · -- The placeholder would have to reach beyond the character.
      exfalso
      obtain _ | ⟨d, part⟩ := part
      · exact hclose (List.cons.inj htail).1
      · obtain ⟨rfl, -⟩ := List.cons.inj htail
        have hmem : c ∈ name := by simp [hpart]
        rw [hisName.continuesName hmem] at hname
        cases hname
    · obtain _ | ⟨d, part⟩ := part
      · exact absurd (List.cons.inj htail).1.symm hclose
      · obtain ⟨rfl, rfl⟩ := List.cons.inj htail
        refine ⟨(name, part), hole?_eq_some_iff.2 ⟨hisName, ?_⟩, rfl⟩
        simp [source, hpart]
  · rintro ⟨⟨name, part⟩, hfound, heq⟩
    cases heq
    obtain ⟨hisName, rfl⟩ := hole?_eq_some_iff.1 hfound
    exact ⟨hisName, List.append_assoc _ _ _⟩

/-! ## The scan -/

theorem scan_nil : scan [] = [] := by
  unfold scan
  rfl

theorem scan_of_hole {cs name rest : List Char} (h : hole? cs = some (name, rest)) :
    scan cs = .hole name :: scan rest := by
  rw [scan]
  split
  · rename_i other tail heq
    rw [h] at heq
    cases heq
    rfl
  · rename_i heq
    rw [h] at heq
    cases heq

theorem scan_cons_of_none {c : Char} {cs : List Char} (h : hole? (c :: cs) = none) :
    scan (c :: cs) = .char c :: scan cs := by
  rw [scan]
  split
  · rename_i heq
    rw [h] at heq
    cases heq
  · rfl

theorem scan_append_cons {c : Char} (hname : continuesName c = false) (hclose : c ≠ '}')
    (before after : List Char) :
    scan (before ++ c :: after) = scan before ++ scan (c :: after) := by
  induction before using scan.induct with
  | case1 before name rest hhole ih =>
    have hbefore : before ≠ [] := by
      rintro rfl
      cases hhole
    have hfound := hole?_append_cons hname hclose hbefore after
    rw [hhole] at hfound
    rw [scan_of_hole hfound, scan_of_hole hhole, List.cons_append, ← ih]
  | case2 => rw [scan_nil, List.nil_append, List.nil_append]
  | case3 d before hhole ih =>
    have hfound : hole? (d :: (before ++ c :: after)) = none := by
      have hbefore := hole?_append_cons hname hclose (List.cons_ne_nil d before) after
      rwa [hhole] at hbefore
    rw [List.cons_append, scan_cons_of_none hfound, scan_cons_of_none hhole, ih, List.cons_append]

/-- The scan misses no placeholder, whatever stands around it. -/
theorem scan_append_hole {name : List Char} (hname : IsName name) (before after : List Char) :
    scan (before ++ source (.hole name) ++ after) =
      scan before ++ .hole name :: scan after := by
  have hhole : hole? (source (.hole name) ++ after) = some (name, after) :=
    hole?_eq_some_iff.2 ⟨hname, rfl⟩
  rw [← scan_of_hole hhole, List.append_assoc]
  exact scan_append_cons (by decide) (by decide) before _

/-- No text is lost. -/
theorem flatMap_source_scan (cs : List Char) : (scan cs).flatMap source = cs := by
  induction cs using scan.induct with
  | case1 cs name rest hhole ih =>
    rw [scan_of_hole hhole, List.flatMap_cons, ih]
    exact (hole?_eq_some_iff.1 hhole).2.symm
  | case2 => rw [scan_nil, List.flatMap_nil]
  | case3 c cs hhole ih =>
    rw [scan_cons_of_none hhole, List.flatMap_cons, ih]
    rfl

theorem isName_of_mem_scan {cs name : List Char} (h : .hole name ∈ scan cs) : IsName name := by
  induction cs using scan.induct with
  | case1 cs other rest hhole ih =>
    rw [scan_of_hole hhole] at h
    rcases List.mem_cons.1 h with heq | h
    · cases heq
      exact (hole?_eq_some_iff.1 hhole).1
    · exact ih h
  | case2 =>
    rw [scan_nil] at h
    cases h
  | case3 c cs hhole ih =>
    rw [scan_cons_of_none hhole] at h
    rcases List.mem_cons.1 h with heq | h
    · cases heq
    · exact ih h

end Piece

end MerchantApi
