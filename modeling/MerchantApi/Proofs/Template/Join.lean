import MerchantApi.Proofs.Template
import MerchantApi.Proofs.Template.Resolve
/-!
# Templates joined by a slash

No placeholder reaches across a slash, so that two texts joined by one are cut
as each of them is.  Such a template resolves when both parts do, to what they
resolve to with the slash between.
-/

namespace MerchantApi

namespace Piece

theorem scan_join (left right : List Char) :
    scan (left ++ '/' :: right) = scan left ++ .char '/' :: scan right := by
  have hslash : hole? ('/' :: right) = none := hole?_of_ne (by decide) right
  rw [scan_append_cons (by decide) (by decide), scan_cons_of_none hslash]

theorem replaced_append_iff {params : String → Option String} {left right : List Piece}
    {text : List Char} :
    Replaced params (left ++ right) text ↔
      ∃ before after, Replaced params left before ∧ Replaced params right after ∧
        text = before ++ after := by
  simp only [replaced_iff, List.mem_append, List.flatMap_append]
  constructor
  · rintro ⟨hsome, rfl⟩
    exact ⟨_, _, ⟨fun name hname => hsome name (Or.inl hname), rfl⟩,
      ⟨fun name hname => hsome name (Or.inr hname), rfl⟩, rfl⟩
  · rintro ⟨_, _, ⟨hleft, rfl⟩, ⟨hright, rfl⟩, rfl⟩
    exact ⟨fun name hname => hname.elim (hleft name) (hright name), rfl⟩

end Piece

namespace Template

open Piece

variable {params : String → Option String}

theorem resolve_eq_ok_iff {t : Template} {path : String} :
    t.resolve params = .ok path ↔ Replaced params t.pieces path.toList := by
  rw [resolve_eq_ok_iff_replaced]
  constructor
  · rintro ⟨pieces, hcuts, h⟩
    obtain rfl : pieces = t.pieces := hcuts.eq_scan
    exact h
  · exact fun h => ⟨_, cuts_scan _, h⟩

theorem pieces_join (left right : String) :
    (Template.mk (left ++ "/" ++ right)).pieces =
      (Template.mk left).pieces ++ [.char '/'] ++ (Template.mk right).pieces := by
  have htext : (left ++ "/" ++ right).toList = left.toList ++ '/' :: right.toList := by
    simp [String.toList_append]
  rw [pieces, htext, scan_join, List.append_cons]
  rfl

theorem resolve_join_eq_ok_iff {left right path : String} :
    (Template.mk (left ++ "/" ++ right)).resolve params = .ok path ↔
      ∃ before after, (Template.mk left).resolve params = .ok before ∧
        (Template.mk right).resolve params = .ok after ∧ path = before ++ "/" ++ after := by
  simp only [resolve_eq_ok_iff, pieces_join, replaced_append_iff]
  constructor
  · rintro ⟨_, after, ⟨before, slash, hbefore, hslash, rfl⟩, hafter, htext⟩
    obtain ⟨-, rfl⟩ := replaced_iff.1 hslash
    refine ⟨String.ofList before, String.ofList after, ?_, ?_, ?_⟩
    · rwa [String.toList_ofList]
    · rwa [String.toList_ofList]
    · apply String.toList_injective
      rw [htext]
      simp [String.toList_append, fill]
  · rintro ⟨before, after, hbefore, hafter, rfl⟩
    refine ⟨_, after.toList, ⟨before.toList, ['/'], hbefore, .char '/' .nil, rfl⟩, hafter, ?_⟩
    simp [String.toList_append]

/-! ## Placeholders of both parts -/

/-- The names in a text that goes on are those at its beginning and then the new ones. -/
theorem namesOf_append (left right : List Piece) :
    namesOf (left ++ right) =
      namesOf left ++ (namesOf right).filter fun name => name ∉ namesOf left := by
  induction right using List.reverseRecOn with
  | nil =>
    rw [List.append_nil, show namesOf [] = [] from rfl, List.filter_nil, List.append_nil]
  | append_singleton right p ih =>
    rw [← List.append_assoc, namesOf_concat, namesOf_concat, ih]
    cases p with
    | char c => rfl
    | hole name =>
      by_cases hleft : String.ofList name ∈ namesOf left <;>
        by_cases hright : String.ofList name ∈ namesOf right <;>
          simp [hleft, hright, List.filter_append]

theorem placeholders_join (left right : String) :
    (Template.mk (left ++ "/" ++ right)).placeholders =
      (Template.mk left).placeholders ++
        (Template.mk right).placeholders.filter fun name =>
          name ∉ (Template.mk left).placeholders := by
  rw [placeholders, pieces_join, namesOf_append, namesOf_concat]
  rfl

/-- The first placeholder without a parameter is sought on the left first. -/
theorem find?_missing_join (left right : String) :
    ((Template.mk (left ++ "/" ++ right)).placeholders.find? fun name => (params name).isNone) =
      ((Template.mk left).placeholders.find? fun name => (params name).isNone).or
        ((Template.mk right).placeholders.find? fun name => (params name).isNone) := by
  rw [placeholders_join, List.find?_append, List.find?_filter]
  cases hleft : (Template.mk left).placeholders.find? fun name => (params name).isNone with
  | some name => rfl
  | none =>
    rw [Option.none_or, Option.none_or]
    refine List.find?_congr fun name _ => ?_
    cases hvalue : params name with
    | some value => simp
    | none =>
      have hnew : name ∉ (Template.mk left).placeholders := by
        intro hmem
        obtain ⟨value, hsome⟩ := find?_missing_eq_none_iff.1 hleft name hmem
        rw [hvalue] at hsome
        cases hsome
      simp [hnew]

theorem resolve_eq_error_iff_find? {t : Template} {cause : ApiError} :
    t.resolve params = .error cause ↔
      ∃ name, (t.placeholders.find? fun name => (params name).isNone) = some name ∧
        cause = .missingParameter name t.source := by
  rw [resolve]
  cases t.placeholders.find? fun name => (params name).isNone with
  | none =>
    constructor
    · intro h
      cases h
    · rintro ⟨name, hname, -⟩
      cases hname
  | some name =>
    constructor
    · intro h
      exact ⟨name, rfl, (Except.error.inj h).symm⟩
    · rintro ⟨other, hother, rfl⟩
      rw [Option.some.inj hother]

/-- A part that lacks a parameter is told of by the name of that parameter, the left
one first. -/
theorem resolve_join_eq_error_iff {left right : String} {cause : ApiError} :
    (Template.mk (left ++ "/" ++ right)).resolve params = .error cause ↔
      ∃ name, cause = .missingParameter name (left ++ "/" ++ right) ∧
        ((Template.mk left).resolve params = .error (.missingParameter name left) ∨
          (∃ before, (Template.mk left).resolve params = .ok before) ∧
            (Template.mk right).resolve params = .error (.missingParameter name right)) := by
  simp only [resolve_eq_error_iff_find?, find?_missing_join, Option.or_eq_some_iff,
    exists_resolve_iff, ← find?_missing_eq_none_iff, ApiError.missingParameter.injEq, and_true,
    exists_eq_right']
  exact exists_congr fun name => and_comm

/-! ## A placeholder alone -/

theorem pieces_hole {name : String} (hname : IsName name.toList) :
    (Template.mk ("\x7b" ++ name ++ "\x7d")).pieces = [.hole name.toList] := by
  have htext : ("\x7b" ++ name ++ "\x7d").toList = Piece.source (.hole name.toList) := by
    simp [Piece.source, String.toList_append]
  have hhole : hole? (Piece.source (.hole name.toList)) = some (name.toList, []) :=
    hole?_eq_some_iff.2 ⟨hname, (List.append_nil _).symm⟩
  rw [pieces, htext, scan_of_hole hhole, scan_nil]

theorem resolve_hole_eq_ok_iff {name value : String} (hname : IsName name.toList) :
    (Template.mk ("\x7b" ++ name ++ "\x7d")).resolve params = .ok value ↔
      params name = some value := by
  rw [resolve_eq_ok_iff, pieces_hole hname, replaced_iff]
  simp only [List.mem_singleton, Piece.hole.injEq, forall_eq, String.ofList_toList,
    List.flatMap_singleton, fill]
  constructor
  · rintro ⟨hsome, htext⟩
    obtain ⟨other, hother⟩ := Option.isSome_iff_exists.1 hsome
    rw [hother, Option.getD_some] at htext
    rw [hother, String.toList_injective htext]
  · intro hvalue
    rw [hvalue]
    exact ⟨rfl, rfl⟩

theorem resolve_hole_eq_error_iff {name : String} (hname : IsName name.toList)
    {cause : ApiError} :
    (Template.mk ("\x7b" ++ name ++ "\x7d")).resolve params = .error cause ↔
      params name = none ∧ cause = .missingParameter name ("\x7b" ++ name ++ "\x7d") := by
  have hlisted : (Template.mk ("\x7b" ++ name ++ "\x7d")).placeholders = [name] := by
    rw [placeholders, pieces_hole hname, ← List.nil_append [Piece.hole name.toList],
      namesOf_concat]
    exact congrArg ([·]) String.ofList_toList
  rw [resolve_eq_error_iff_find?, hlisted]
  cases hvalue : params name <;> simp [hvalue]

end Template

end MerchantApi
