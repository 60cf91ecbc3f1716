import MerchantApi.Proofs.Template.Scan
import Mathlib.Data.List.Basic
import Mathlib.Data.List.Find
import Mathlib.Data.List.Induction
import Mathlib.Logic.ExistsUnique
/-!
# Resolving a template

A text can be cut in one way only so that every name in braces is a placeholder
and all else is kept.  The placeholders of a template are those of that cut, by
first appearance, and resolving replaces all of them at once by their
parameters, which are put in as they are.
-/

namespace MerchantApi

namespace Piece

/-! ## Cutting a text -/

/-- A text cut into pieces: they spell the text, and what is cut out as
placeholders is every name in braces and nothing else. -/
structure Cuts (cs : List Char) (pieces : List Piece) : Prop where
  spells : pieces.flatMap source = cs
  names : ∀ name, .hole name ∈ pieces → IsName name
  misses_none : ∀ name before after, IsName name → cs = before ++ source (.hole name) ++ after →
    ∃ left right, pieces = left ++ .hole name :: right ∧ left.flatMap source = before ∧
      right.flatMap source = after

theorem cuts_scan (cs : List Char) : Cuts cs (scan cs) where
  spells := flatMap_source_scan cs
  names _ := isName_of_mem_scan
  misses_none name before after hname heq := by
    subst heq
    exact ⟨scan before, scan after, scan_append_hole hname before after,
      flatMap_source_scan before, flatMap_source_scan after⟩

private theorem eq_nil_of_flatMap_source {pieces : List Piece} (h : pieces.flatMap source = []) :
    pieces = [] := by
  obtain _ | ⟨p, pieces⟩ := pieces
  · rfl
  · rw [List.flatMap_cons, List.append_eq_nil_iff] at h
    exact absurd h.1 p.source_ne_nil

theorem Cuts.tail {p : Piece} {pieces : List Piece} {cs : List Char} (h : Cuts cs (p :: pieces)) :
    Cuts (pieces.flatMap source) pieces where
  spells := rfl
  names name hname := h.names name (List.mem_cons_of_mem p hname)
  misses_none name before after hname heq := by
    have hall : cs = (p.source ++ before) ++ source (.hole name) ++ after := by
      rw [← h.spells, List.flatMap_cons, heq]
      simp only [List.append_assoc]
    obtain ⟨left, right, hpieces, hbefore, hafter⟩ := h.misses_none name _ after hname hall
    obtain _ | ⟨q, left⟩ := left
    · have hsource : p.source = [] := (List.append_eq_nil_iff.1 hbefore.symm).1
      exact absurd hsource p.source_ne_nil
    · obtain ⟨rfl, rfl⟩ := List.cons.inj hpieces
      exact ⟨left, right, rfl, List.append_cancel_left hbefore, hafter⟩

/-- There is no other cut than the scan. -/
theorem Cuts.eq_scan {pieces : List Piece} {cs : List Char} (h : Cuts cs pieces) :
    pieces = scan cs := by
  induction pieces generalizing cs with
  | nil => rw [← h.spells, List.flatMap_nil, scan_nil]
  | cons p pieces ih =>
    have htail := ih h.tail
    have hspells := h.spells
    cases p with
    | hole name =>
      have hname : IsName name := h.names name List.mem_cons_self
      rw [List.flatMap_cons] at hspells
      rw [scan_of_hole (hole?_eq_some_iff.2 ⟨hname, hspells.symm⟩), ← htail]
    | char c =>
      obtain rfl : c :: pieces.flatMap source = cs := hspells
      cases hhole : hole? (c :: pieces.flatMap source) with
      | none => rw [scan_cons_of_none hhole, ← htail]
      | some found =>
        obtain ⟨name, rest⟩ := found
        obtain ⟨hname, heq⟩ := hole?_eq_some_iff.1 hhole
        obtain ⟨left, right, hpieces, hbefore, -⟩ := h.misses_none name [] rest hname heq
        obtain rfl := eq_nil_of_flatMap_source hbefore
        cases (List.cons.inj hpieces).1

/-- A piece that is not among those before another one comes after it. -/
theorem length_lt_of_not_mem {left right left' right' : List Piece} {p q : Piece}
    (heq : left ++ p :: right = left' ++ q :: right') (hne : p ≠ q) (hnot : q ∉ left) :
    (left.flatMap source).length < (left'.flatMap source).length := by
  rcases List.append_eq_append_iff.1 heq with ⟨part, rfl, htail⟩ | ⟨part, rfl, htail⟩
  · obtain _ | ⟨first, part⟩ := part
    · exact absurd (List.cons.inj htail).1 hne
    · obtain ⟨rfl, -⟩ := List.cons.inj htail
      have hpos : 0 < p.source.length := List.length_pos_iff.2 p.source_ne_nil
      rw [List.flatMap_append, List.flatMap_cons, List.length_append, List.length_append]
      omega
  · obtain _ | ⟨first, part⟩ := part
    · exact absurd (List.cons.inj htail).1.symm hne
    · obtain ⟨rfl, -⟩ := List.cons.inj htail
      exact absurd (List.mem_append_right left' List.mem_cons_self) hnot

/-! ## Replacing placeholders -/

/-- A text made of pieces with every placeholder replaced by its parameter as it
is; every one of them has a parameter. -/
inductive Replaced (params : String → Option String) : List Piece → List Char → Prop where
  | nil : Replaced params [] []
  | char (c : Char) {pieces : List Piece} {text : List Char} :
    Replaced params pieces text → Replaced params (.char c :: pieces) (c :: text)
  | hole {name : List Char} {value : String} {pieces : List Piece} {text : List Char} :
    params (String.ofList name) = some value → Replaced params pieces text →
      Replaced params (.hole name :: pieces) (value.toList ++ text)

theorem replaced_iff {params : String → Option String} {pieces : List Piece} {text : List Char} :
    Replaced params pieces text ↔
      (∀ name, .hole name ∈ pieces → (params (String.ofList name)).isSome) ∧
        text = pieces.flatMap (Template.fill params) := by
  constructor
  · intro h
    induction h with
    | nil => exact ⟨nofun, rfl⟩
    | char c _ ih =>
      obtain ⟨hsome, rfl⟩ := ih
      refine ⟨fun name hname => hsome name ?_, rfl⟩
      simpa using hname
    | hole hvalue _ ih =>
      obtain ⟨hsome, rfl⟩ := ih
      constructor
      · intro other hother
        rcases List.mem_cons.1 hother with heq | hother
        · cases heq
          rw [hvalue]
          rfl
        · exact hsome other hother
      · rw [List.flatMap_cons, Template.fill, hvalue]
        rfl
  · rintro ⟨hsome, rfl⟩
    induction pieces with
    | nil => exact .nil
    | cons p pieces ih =>
      have htail := ih fun name hname => hsome name (List.mem_cons_of_mem p hname)
      cases p with
      | char c => exact .char c htail
      | hole name =>
        obtain ⟨value, hvalue⟩ := Option.isSome_iff_exists.1 (hsome name List.mem_cons_self)
        rw [List.flatMap_cons, Template.fill, hvalue]
        exact .hole hvalue htail

end Piece

namespace Template

open Piece

/-! ## Placeholders in order -/

theorem namesOf_concat (pieces : List Piece) (p : Piece) :
    namesOf (pieces ++ [p]) =
      match p with
      | .char _ => namesOf pieces
      | .hole name =>
        if String.ofList name ∈ namesOf pieces then namesOf pieces
        else namesOf pieces ++ [String.ofList name] := by
  rw [namesOf, List.foldl_append]
  rfl

theorem mem_namesOf {pieces : List Piece} {name : String} :
    name ∈ namesOf pieces ↔ .hole name.toList ∈ pieces := by
  induction pieces using List.reverseRecOn with
  | nil => simp [namesOf]
  | append_singleton pieces p ih =>
    rw [namesOf_concat, List.mem_append, ← ih, List.mem_singleton]
    cases p with
    | char c => simp
    | hole other =>
      have hother : name = String.ofList other ↔ Piece.hole name.toList = .hole other := by
        rw [Piece.hole.injEq]
        exact ⟨fun h => h ▸ String.toList_ofList, fun h => h ▸ String.ofList_toList.symm⟩
      simp only
      split
      · rename_i hmem
        rw [← hother]
        constructor
        · exact Or.inl
        · rintro (h | rfl)
          · exact h
          · exact hmem
      · rw [List.mem_append, List.mem_singleton, hother]

/-- A name is listed before another one only if its first placeholder comes first. -/
theorem pairwise_namesOf (pieces : List Piece) :
    (namesOf pieces).Pairwise fun a b => a ≠ b ∧
      ∃ left right, pieces = left ++ .hole a.toList :: right ∧ .hole b.toList ∉ left := by
  induction pieces using List.reverseRecOn with
  | nil => exact List.Pairwise.nil
  | append_singleton pieces p ih =>
    have hbefore := ih.imp (S := fun a b => a ≠ b ∧ ∃ left right,
        pieces ++ [p] = left ++ .hole a.toList :: right ∧ .hole b.toList ∉ left) <| by
      rintro a b ⟨hne, left, right, rfl, hnot⟩
      exact ⟨hne, left, right ++ [p], by simp, hnot⟩
    rw [namesOf_concat]
    cases p with
    | char c => exact hbefore
    | hole other =>
      simp only
      split
      · exact hbefore
      · rename_i hnew
        rw [List.pairwise_append]
        refine ⟨hbefore, List.pairwise_singleton _ _, fun a ha b hb => ?_⟩
        obtain rfl := List.mem_singleton.1 hb
        refine ⟨fun heq => hnew (heq ▸ ha), ?_⟩
        obtain ⟨left, right, rfl⟩ := List.append_of_mem (mem_namesOf.1 ha)
        refine ⟨left, right ++ [.hole other], by simp, fun hleft => hnew ?_⟩
        exact mem_namesOf.2 (List.mem_append_left _ hleft)

def StandsAt (t : Template) (name : String) (position : Nat) : Prop :=
  ∃ before after, t.source.toList = before ++ ('{' :: name.toList ++ ['}']) ++ after ∧
    before.length = position

theorem mem_placeholders_iff {t : Template} {name : String} :
    name ∈ t.placeholders ↔
      IsName name.toList ∧ ('{' :: name.toList ++ ['}']) <:+: t.source.toList := by
  rw [placeholders, mem_namesOf]
  constructor
  · intro hmem
    obtain ⟨left, right, hpieces⟩ := List.append_of_mem hmem
    refine ⟨isName_of_mem_scan hmem, left.flatMap Piece.source, right.flatMap Piece.source, ?_⟩
    have hall := flatMap_source_scan t.source.toList
    rw [show scan t.source.toList = t.pieces from rfl, hpieces, List.flatMap_append,
      List.flatMap_cons] at hall
    rw [← hall, List.append_assoc]
    rfl
  · rintro ⟨hname, before, after, heq⟩
    rw [pieces, ← heq]
    exact scan_append_hole hname before after ▸ by simp

/-- Names are listed in the order in which they first stand in braces. -/
theorem pairwise_placeholders (t : Template) :
    t.placeholders.Pairwise fun a b =>
      a ≠ b ∧ ∃ i, t.StandsAt a i ∧ ∀ j, t.StandsAt b j → i < j := by
  refine (pairwise_namesOf t.pieces).imp_of_mem ?_
  rintro a b - hb ⟨hne, left, right, hpieces, hnot⟩
  have hspells := (cuts_scan t.source.toList).spells
  have hname : IsName b.toList := (mem_placeholders_iff.1 hb).1
  refine ⟨hne, (left.flatMap Piece.source).length,
    ⟨_, right.flatMap Piece.source, ?_, rfl⟩, ?_⟩
  · rw [← hspells, show scan t.source.toList = _ from hpieces, List.flatMap_append,
      List.flatMap_cons, List.append_assoc]
    rfl
  · rintro j ⟨before, after, heq, rfl⟩
    obtain ⟨left', right', hpieces', rfl, -⟩ :=
      (cuts_scan t.source.toList).misses_none _ before after hname heq
    refine length_lt_of_not_mem (hpieces.symm.trans hpieces') ?_ hnot
    exact fun hsame => hne (String.toList_injective (Piece.hole.inj hsame))

/-! ## Resolving -/

section Resolve

variable {t : Template} {params : String → Option String}

theorem find?_missing_eq_none_iff :
    (t.placeholders.find? fun name => (params name).isNone) = none ↔
      ∀ name ∈ t.placeholders, ∃ value, params name = some value := by
  simp only [List.find?_eq_none, Option.isNone_iff_eq_none, ← ne_eq, Option.ne_none_iff_exists']

theorem exists_resolve_iff :
    (∃ path, t.resolve params = .ok path) ↔
      ∀ name ∈ t.placeholders, ∃ value, params name = some value := by
  rw [← find?_missing_eq_none_iff, resolve]
  cases t.placeholders.find? fun name => (params name).isNone with
  | none => exact ⟨fun _ => rfl, fun _ => ⟨_, rfl⟩⟩
  | some name =>
    constructor
    · rintro ⟨path, h⟩
      cases h
    · intro h
      cases h

theorem resolve_eq_ok_iff_replaced {path : String} :
    t.resolve params = .ok path ↔
      ∃ pieces, Cuts t.source.toList pieces ∧ Replaced params pieces path.toList := by
  have hreplaced : (∃ pieces, Cuts t.source.toList pieces ∧ Replaced params pieces path.toList) ↔
      Replaced params t.pieces path.toList := by
    constructor
    · rintro ⟨pieces, hcuts, h⟩
      obtain rfl : pieces = t.pieces := hcuts.eq_scan
      exact h
    · exact fun h => ⟨_, cuts_scan _, h⟩
  have hsupplied : (∀ name, .hole name ∈ t.pieces → (params (String.ofList name)).isSome) ↔
      (t.placeholders.find? fun name => (params name).isNone) = none := by
    rw [find?_missing_eq_none_iff]
    simp only [placeholders, mem_namesOf, ← Option.isSome_iff_exists]
    constructor
    · intro h name hmem
      have hsome := h name.toList hmem
      rwa [String.ofList_toList] at hsome
    · intro h name hmem
      apply h
      rwa [String.toList_ofList]
  rw [hreplaced, replaced_iff, hsupplied, resolve]
  cases t.placeholders.find? fun name => (params name).isNone with
  | some name => simp
  | none =>
    simp only [Except.ok.injEq, true_and]
    exact ⟨fun h => h ▸ String.toList_ofList, fun h => h ▸ String.ofList_toList⟩

theorem resolve_eq_error_iff {cause : ApiError} :
    t.resolve params = .error cause ↔
      ∃ earlier name later, t.placeholders = earlier ++ name :: later ∧
        (∀ other ∈ earlier, ∃ value, params other = some value) ∧ params name = none ∧
          cause = .missingParameter name t.source := by
  have hfind : ∀ name, (t.placeholders.find? fun name => (params name).isNone) = some name ↔
      ∃ earlier later, t.placeholders = earlier ++ name :: later ∧
        (∀ other ∈ earlier, ∃ value, params other = some value) ∧ params name = none := by
    intro name
    rw [List.find?_eq_some_iff_append, Option.isNone_iff_eq_none]
    simp only [Bool.not_eq_true', Option.isNone_eq_false_iff, Option.isSome_iff_exists]
    constructor
    · rintro ⟨hnone, earlier, later, hlist, hearlier⟩
      exact ⟨earlier, later, hlist, hearlier, hnone⟩
    · rintro ⟨earlier, later, hlist, hearlier, hnone⟩
      exact ⟨hnone, earlier, later, hlist, hearlier⟩
  rw [resolve]
  cases hfound : t.placeholders.find? fun name => (params name).isNone with
  | none =>
    refine ⟨nofun, ?_⟩
    rintro ⟨earlier, name, later, hlist, hearlier, hnone, -⟩
    rw [(hfind name).2 ⟨earlier, later, hlist, hearlier, hnone⟩] at hfound
    cases hfound
  | some name =>
    constructor
    · intro h
      obtain ⟨earlier, later, hlist, hearlier, hnone⟩ := (hfind name).1 hfound
      exact ⟨earlier, name, later, hlist, hearlier, hnone, (Except.error.inj h).symm⟩
    · rintro ⟨earlier, other, later, hlist, hearlier, hnone, rfl⟩
      rw [(hfind other).2 ⟨earlier, later, hlist, hearlier, hnone⟩] at hfound
      cases hfound
      rfl

/-- Only the parameters of placeholders count. -/
theorem resolve_congr {other : String → Option String}
    (h : ∀ name ∈ t.placeholders, other name = params name) :
    t.resolve other = t.resolve params := by
  have hfind : (t.placeholders.find? fun name => (other name).isNone) =
      t.placeholders.find? fun name => (params name).isNone :=
    List.find?_congr fun name hname => congrArg Option.isNone (h name hname)
  have hfill : t.pieces.flatMap (fill other) = t.pieces.flatMap (fill params) := by
    apply List.flatMap_congr
    intro p hp
    cases p with
    | char c => rfl
    | hole name =>
      have hname : String.ofList name ∈ t.placeholders := by
        rw [placeholders, mem_namesOf, String.toList_ofList]
        exact hp
      rw [fill, fill, h _ hname]
  rw [resolve, resolve, hfind, hfill]

end Resolve

/-- The placeholders of a template are the names that stand in it in braces, by
first appearance.  A template resolves when all of them have parameters, to its
text with all of them replaced at once; otherwise the first one that has no
parameter is the error.  Other parameters do not count. -/
theorem resolve_replaces_placeholders (t : Template) (params : String → Option String) :
    (∀ name, name ∈ t.placeholders ↔
      IsName name.toList ∧ ('{' :: name.toList ++ ['}']) <:+: t.source.toList) ∧
    (t.placeholders.Pairwise fun a b =>
      a ≠ b ∧ ∃ i, t.StandsAt a i ∧ ∀ j, t.StandsAt b j → i < j) ∧
    (∃! pieces, Cuts t.source.toList pieces) ∧
    ((∃ path, t.resolve params = .ok path) ↔
      ∀ name ∈ t.placeholders, ∃ value, params name = some value) ∧
    (∀ path : String, t.resolve params = .ok path ↔
      ∃ pieces, Cuts t.source.toList pieces ∧ Replaced params pieces path.toList) ∧
    (∀ cause, t.resolve params = .error cause ↔
      ∃ earlier name later, t.placeholders = earlier ++ name :: later ∧
        (∀ other ∈ earlier, ∃ value, params other = some value) ∧ params name = none ∧
          cause = .missingParameter name t.source) ∧
    ∀ other, (∀ name ∈ t.placeholders, other name = params name) →
      t.resolve other = t.resolve params := by
  refine ⟨fun _ => mem_placeholders_iff, pairwise_placeholders t, ?_, exists_resolve_iff,
    fun _ => resolve_eq_ok_iff_replaced, fun _ => resolve_eq_error_iff, fun _ => resolve_congr⟩
  exact ⟨t.pieces, cuts_scan _, fun _ hcuts => hcuts.eq_scan⟩

def strayBraces : Template := ⟨"/\x7b\x7bid\x7d\x7d\x7ba\x7bb1\x7d\x7b1x\x7d\x7b\x7d\x7bid\x7d"⟩

def bracedParams : String → Option String
  | "id" => some "\x7bb1\x7d"
  | "b1" => some "$1"
  | _ => none

theorem resolve_strayBraces :
    strayBraces.placeholders = ["id", "b1"] ∧
    strayBraces.resolve bracedParams =
      .ok "/\x7b\x7bb1\x7d\x7d\x7ba$1\x7b1x\x7d\x7b\x7d\x7bb1\x7d" ∧
    strayBraces.resolve (fun name => if name = "a" then some "x" else bracedParams name) =
      strayBraces.resolve bracedParams := by
  have hlisted : strayBraces.placeholders = ["id", "b1"] := by decide +kernel
  have hpath : (strayBraces.resolve bracedParams).toOption =
      some "/\x7b\x7bb1\x7d\x7d\x7ba$1\x7b1x\x7d\x7b\x7d\x7bb1\x7d" := by decide +kernel
  have hresolved : strayBraces.resolve bracedParams =
      .ok "/\x7b\x7bb1\x7d\x7d\x7ba$1\x7b1x\x7d\x7b\x7d\x7bb1\x7d" := by
    cases hresult : strayBraces.resolve bracedParams with
    | error cause =>
      rw [hresult] at hpath
      cases hpath
    | ok path =>
      rw [hresult] at hpath
      rw [Option.some.inj hpath]
  obtain ⟨-, -, -, -, -, -, hother⟩ := resolve_replaces_placeholders strayBraces bracedParams
  refine ⟨hlisted, hresolved, hother _ ?_⟩
  rw [hlisted]
  decide

end Template

end MerchantApi
