import MerchantApi.Template
import Mathlib.Data.List.Basic
/-!
# Plain templates

A text without an opening brace has no placeholders, so it is its own path
whatever the parameters are.
-/

namespace MerchantApi

namespace Piece

theorem hole?_of_ne {c : Char} (h : c ≠ '{') (cs : List Char) : hole? (c :: cs) = none := by
  unfold hole?
  split
  · rename_i heq
    exact absurd (List.cons.inj heq).1 h
  · rfl

theorem scan_of_not_mem {cs : List Char} (h : '{' ∉ cs) : scan cs = cs.map .char := by
  induction cs with
  | nil =>
    unfold scan
    rfl
  | cons c cs ih =>
    have hc : c ≠ '{' := fun heq => h (heq ▸ List.mem_cons_self)
    have hrest := ih fun hmem => h (List.mem_cons_of_mem c hmem)
    rw [scan]
    split
    · rename_i heq
      rw [hole?_of_ne hc] at heq
      cases heq
    · rw [List.map_cons, ← hrest]

end Piece

namespace Template

variable {t : Template}

theorem pieces_of_not_mem (h : '{' ∉ t.source.toList) :
    t.pieces = t.source.toList.map .char :=
  Piece.scan_of_not_mem h

theorem namesOf_chars (cs : List Char) : namesOf (cs.map .char) = [] := by
  rw [namesOf, List.foldl_map]
  exact List.foldl_fixed' (fun _ => rfl) cs

theorem placeholders_of_not_mem (h : '{' ∉ t.source.toList) : t.placeholders = [] := by
  rw [placeholders, pieces_of_not_mem h, namesOf_chars]

theorem resolve_of_not_mem (h : '{' ∉ t.source.toList) (params : String → Option String) :
    t.resolve params = .ok t.source := by
  rw [resolve, placeholders_of_not_mem h, List.find?_nil, pieces_of_not_mem h, List.flatMap_map]
  simp only [fill, List.flatMap_singleton', String.ofList_toList]

end Template

end MerchantApi
