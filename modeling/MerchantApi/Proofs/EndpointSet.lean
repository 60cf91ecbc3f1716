import MerchantApi.EndpointSet
import MerchantApi.Proofs.Template.Join
import MerchantApi.Proofs.Text.Slash
/-!
# Paths below a collection

Actions and items live below their collection: their templates are that of the
collection without its trailing slashes, a slash, and a part of their own.  They
resolve as these two do, each on its own side of the slash.
-/

namespace MerchantApi

namespace Template

private theorem placeholders_dropTrailingSlashes (t : Template) :
    (Template.mk (Text.dropTrailingSlashes t.source)).placeholders = t.placeholders := by
  obtain ⟨n, hsource⟩ := Text.exists_dropTrailingSlashes_append t.source
  rw [placeholders, placeholders, pieces, pieces, hsource]
  obtain _ | n := n
  · rw [List.replicate_zero, List.append_nil]
  · have hslashes : '{' ∉ List.replicate n '/' := by
      intro hmem
      exact absurd (List.eq_of_mem_replicate hmem) (by decide)
    rw [List.replicate_succ, Piece.scan_join, Piece.scan_of_not_mem hslashes, namesOf_append,
      ← List.map_cons, namesOf_chars, List.filter_nil, List.append_nil]

end Template

namespace EndpointSet

variable {params : String → Option String} {base : String}

/-! ## Items -/

theorem isName_id : Piece.IsName "id".toList := by
  rw [show "id".toList = ['i', 'd'] from rfl, Piece.isName_cons_iff]
  exact ⟨rfl, List.forall_mem_singleton.2 rfl⟩

private theorem get_rest (base : String) :
    (rest base).get = ⟨(rest base).getAll.source ++ "/" ++ ("\x7b" ++ "id" ++ "\x7d")⟩ := by
  rw [String.append_assoc]
  rfl

theorem resolve_item_eq_ok_iff {path : String} :
    (rest base).get.resolve params = .ok path ↔
      ∃ below id, (rest base).getAll.resolve params = .ok below ∧ params "id" = some id ∧
        path = below ++ "/" ++ id := by
  simp only [get_rest, Template.resolve_join_eq_ok_iff, Template.resolve_hole_eq_ok_iff isName_id]

theorem resolve_item_eq_error_iff {cause : ApiError} :
    (rest base).get.resolve params = .error cause ↔
      ∃ missing, cause = .missingParameter missing (rest base).get.source ∧
        ((rest base).getAll.resolve params =
            .error (.missingParameter missing (rest base).getAll.source) ∨
          (∃ below, (rest base).getAll.resolve params = .ok below) ∧
            params "id" = none ∧ missing = "id") := by
  simp only [get_rest, Template.resolve_join_eq_error_iff,
    Template.resolve_hole_eq_error_iff isName_id, ApiError.missingParameter.injEq, and_true]

private theorem rest_getAll (base : String) : rest (rest base).getAll.source = rest base := by
  change rest (Text.dropTrailingSlashes base) = rest base
  simp only [rest, Text.dropTrailingSlashes_idem]

/-- The template of an action is that of the collection without its trailing
slashes and that of the action on both sides of a slash, and no placeholder comes
or goes where they meet.  It resolves when both do, and reports what the first of
them lacks.  Under a conventional layout the items live below the collection in
the same way. -/
theorem resolution_below_collection (endpoints : EndpointSet) (name : String)
    (params : String → Option String) :
    (let collection : Template := ⟨Text.dropTrailingSlashes endpoints.getAll.source⟩
      let own : Template := ⟨name⟩
      let action := endpoints.action name
      (∃ n, endpoints.getAll.source.toList = collection.source.toList ++ List.replicate n '/') ∧
      collection.source.toList.getLast? ≠ some '/' ∧
      action.pieces = collection.pieces ++ [.char '/'] ++ own.pieces ∧
      (action.placeholders = endpoints.getAll.placeholders ++
        own.placeholders.filter fun placeholder =>
          placeholder ∉ endpoints.getAll.placeholders) ∧
      (∀ path, action.resolve params = .ok path ↔
        ∃ below last, collection.resolve params = .ok below ∧ own.resolve params = .ok last ∧
          path = below ++ "/" ++ last) ∧
      ∀ cause, action.resolve params = .error cause ↔
        ∃ missing, cause = .missingParameter missing action.source ∧
          (collection.resolve params = .error (.missingParameter missing collection.source) ∨
            (∃ below, collection.resolve params = .ok below) ∧
              own.resolve params = .error (.missingParameter missing own.source))) ∧
    ∀ base,
      (rest base).create = (rest base).getAll ∧ (rest base).update = (rest base).get ∧
      (rest base).delete = (rest base).get ∧
      (∀ path, (rest base).get.resolve params = .ok path ↔
        ∃ below id, (rest base).getAll.resolve params = .ok below ∧ params "id" = some id ∧
          path = below ++ "/" ++ id) ∧
      (∀ cause, (rest base).get.resolve params = .error cause ↔
        ∃ missing, cause = .missingParameter missing (rest base).get.source ∧
          ((rest base).getAll.resolve params =
              .error (.missingParameter missing (rest base).getAll.source) ∨
            (∃ below, (rest base).getAll.resolve params = .ok below) ∧
              params "id" = none ∧ missing = "id")) ∧
      rest (rest base).getAll.source = rest base := by
  constructor
  · intro collection own action
    refine ⟨Text.exists_dropTrailingSlashes_append _, Text.getLast?_dropTrailingSlashes _,
      Template.pieces_join _ _, ?_, fun _ => Template.resolve_join_eq_ok_iff,
      fun _ => Template.resolve_join_eq_error_iff⟩
    rw [← Template.placeholders_dropTrailingSlashes endpoints.getAll]
    exact Template.placeholders_join collection.source name
  · intro base
    exact ⟨rfl, rfl, rfl, fun _ => resolve_item_eq_ok_iff, fun _ => resolve_item_eq_error_iff,
      rest_getAll base⟩

end EndpointSet

end MerchantApi
