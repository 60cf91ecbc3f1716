import MerchantApi.CommandLine.HeaderMapping
import MerchantApi.Proofs.Text.Cut
import MerchantApi.Proofs.Text.Space
import Mathlib.Data.String.Basic
/-!
# The grammar of header mappings

A text gives a header mapping when something other than white space stands before
its first equals sign and behind it.  What it gives is what stands there without
the white space around it, so that a header and a field are what they were when
they are joined by an equals sign.
-/

namespace MerchantApi.CommandLine

open Text

variable {cs before after : List Char}

theorem splitEquals?_append_cons (h : '=' ∉ before) (after : List Char) :
    splitEquals? (before ++ '=' :: after) = some (before, after) := by
  rw [splitEquals?, dropWhile_ne_append_cons h, takeWhile_ne_append_cons h]

theorem splitEquals?_eq_some_iff :
    splitEquals? cs = some (before, after) ↔ cs = before ++ '=' :: after ∧ '=' ∉ before := by
  constructor
  · intro h
    by_cases hmem : '=' ∈ cs
    · obtain ⟨first, rest, rfl, hfirst⟩ := List.eq_append_cons_of_mem hmem
      rw [splitEquals?_append_cons hfirst] at h
      obtain ⟨rfl, rfl⟩ := Prod.mk.inj (Option.some.inj h)
      exact ⟨rfl, hfirst⟩
    · rw [splitEquals?, dropWhile_ne_eq_nil hmem] at h
      cases h
  · rintro ⟨rfl, hbefore⟩
    exact splitEquals?_append_cons hbefore after

/-- A text gives a mapping exactly when neither side of its first equals sign is
blank, and then gives both sides trimmed. -/
theorem headerMapping?_eq_some_iff {raw header field : String} :
    headerMapping? raw = some (header, field) ↔
      ∃ before after, raw.toList = before ++ '=' :: after ∧ '=' ∉ before ∧
        ¬ Spaces before ∧ ¬ Spaces after ∧
        header.toList = trim before ∧ field.toList = trim after := by
  rw [headerMapping?]
  constructor
  · intro h
    split at h
    · rename_i before after hsplit
      obtain ⟨hraw, hbefore⟩ := splitEquals?_eq_some_iff.1 hsplit
      split at h
      · cases h
      · rename_i hblank
        rw [isBlank_iff, isBlank_iff, not_or] at hblank
        obtain ⟨rfl, rfl⟩ := Prod.mk.inj (Option.some.inj h)
        exact ⟨before, after, hraw, hbefore, hblank.1, hblank.2, String.toList_ofList,
          String.toList_ofList⟩
    · cases h
  · rintro ⟨before, after, hraw, hbefore, hheader, hfield, htrim, htrim'⟩
    rw [hraw, splitEquals?_append_cons hbefore]
    dsimp only
    rw [if_neg (by rw [isBlank_iff, isBlank_iff]; exact not_or_intro hheader hfield),
      ← htrim, ← htrim', String.ofList_toList, String.ofList_toList]

/-- A text with white space around a header and around a field, joined by an equals
sign. -/
structure Joins (raw header field : String) : Prop where
  unequal : '=' ∉ header.toList
  trimmed_header : Trimmed header.toList
  trimmed_field : Trimmed field.toList
  joined : ∃ left right left' right', Spaces left ∧ Spaces right ∧ Spaces left' ∧ Spaces right' ∧
    raw.toList = left ++ header.toList ++ right ++ '=' :: (left' ++ field.toList ++ right')

theorem headerMapping?_eq_some_iff_joins {raw header field : String} :
    headerMapping? raw = some (header, field) ↔ Joins raw header field := by
  rw [headerMapping?_eq_some_iff]
  constructor
  · rintro ⟨before, after, hraw, hequals, hbefore, hafter, hheader, hfield⟩
    obtain ⟨htrimmed, left, right, hleft, hright, hsplit⟩ := exists_trim hbefore
    obtain ⟨htrimmed', left', right', hleft', hright', hsplit'⟩ := exists_trim hafter
    rw [← hheader] at htrimmed hsplit
    rw [← hfield] at htrimmed' hsplit'
    refine ⟨fun hmem => hequals ?_, htrimmed, htrimmed', left, right, left', right', hleft, hright,
      hleft', hright', by rw [hraw, hsplit, hsplit']⟩
    rw [hsplit]
    simp [hmem]
  · rintro ⟨hequals, hheader, hfield, left, right, left', right', hleft, hright, hleft', hright',
      hraw⟩
    have hnone : ∀ {cs}, Spaces cs → '=' ∉ cs := fun hcs hmem => by cases hcs _ hmem
    refine ⟨_, _, hraw, ?_, hheader.not_spaces left right, hfield.not_spaces left' right',
      (trim_append hleft hheader hright).symm, (trim_append hleft' hfield hright').symm⟩
    simp only [List.mem_append, not_or]
    exact ⟨⟨hnone hleft, hequals⟩, hnone hright⟩

end MerchantApi.CommandLine
