import MerchantApi.Proofs.Json.Nesting
import MerchantApi.Proofs.Members
/-!
# Reading printed objects

An object is read as a value with the members that were printed, in the order of
their names; of a name that was printed twice the last value counts.
-/

namespace MerchantApi.Json

namespace Reader

variable (style : Style) (indent : Nat)

theorem reads_value_string (depth : Nat) (s : String) :
    Reads (value depth) (quoted s) (.string s) := by
  refine ⟨opens_quoted s, fun blanks rest hblanks _ => ?_⟩
  rw [List.append_assoc, quoted, List.cons_append, value, skipSpace_blanks hblanks rfl]
  simp only [List.append_assoc, List.cons_append, List.nil_append, stringBody_text]
  rfl

variable {item : List Char → Reading Json}

private theorem members_name {fuel : Nat} {first : Bool} {cs rest : List Char} {name : String}
    {x y : Json}
    (hname : nextName first cs = .ok (some (name.toList.flatMap escape ++ '"' ::
      (style.colon ++ chars style indent x ++ rest))))
    (hread : Reads item (chars style indent x) y) (hrest : Follows rest) :
    members item (fuel + 1) first cs =
      (members item fuel false rest).map fun found => ((name, y) :: found.1, found.2) := by
  obtain ⟨blanks, hblanks, hcolon⟩ := exists_colon style
  have hvalue := hread.reads blanks rest hblanks hrest
  have hafter := hcolon (chars style indent x ++ rest)
  rw [← List.append_assoc, ← List.append_assoc] at hafter
  rw [members]
  simp only [hname, stringBody_text, hafter, hvalue]
  cases members item fuel false rest with
  | error failure => rfl
  | ok found => rfl

private theorem members_behind {xs : List (String × Json)}
    (h : ∀ entry ∈ xs, Reads item (chars style indent entry.2) entry.2) {fuel : Nat}
    (hfuel : xs.length < fuel) {blanks : List Char} (hblanks : Blank blanks)
    (rest : List Char) :
    members item fuel false (membersBehind style indent xs ++ (blanks ++ '}' :: rest)) =
      .ok (xs, rest) := by
  induction xs generalizing fuel with
  | nil =>
    obtain ⟨fuel, rfl⟩ := Nat.exists_eq_succ_of_ne_zero (Nat.ne_zero_of_lt hfuel)
    rw [membersBehind, List.nil_append, members, nextName_close hblanks,
      skipSpace_blanks hblanks rfl]
    rfl
  | cons entry xs ih =>
    obtain ⟨name, x⟩ := entry
    obtain ⟨hx, hxs⟩ := List.forall_mem_cons.1 h
    obtain ⟨fuel, rfl⟩ := Nat.exists_eq_succ_of_ne_zero (Nat.ne_zero_of_lt hfuel)
    have hnext := nextName_behind (blank_newline style indent) (name.toList.flatMap escape ++
      '"' :: (style.colon ++ chars style indent x ++
        (membersBehind style indent xs ++ (blanks ++ '}' :: rest))))
    rw [membersBehind, quoted]
    rw [members_name style indent _ hx (follows_membersBehind style indent xs hblanks rest),
      ih hxs (Nat.lt_of_succ_lt_succ hfuel)]
    · rfl
    · simpa only [List.append_assoc, List.cons_append, List.nil_append] using hnext

/-- An object whose values are read one level deeper is read as an object. -/
theorem reads_value_object {depth : Nat} {xs : List (String × Json)}
    (h : ∀ entry ∈ xs, Reads (value depth) (chars style (indent + 1) entry.2) entry.2) :
    Reads (value (depth + 1)) (chars style indent (.object xs)) (.object (Members.ofList xs)) := by
  refine ⟨opens_object style indent xs, fun blanks rest hblanks _ => ?_⟩
  cases xs with
  | nil =>
    rw [List.append_assoc, value, chars, List.cons_append, skipSpace_blanks hblanks rfl]
    rw [show ['}'] ++ rest = [] ++ '}' :: rest from rfl]
    simp only [members, nextName_close blank_nil]
    rfl
  | cons entry xs =>
    obtain ⟨name, x⟩ := entry
    obtain ⟨hx, hxs⟩ := List.forall_mem_cons.1 h
    have hblank := blank_newline style (indent + 1)
    have hfollows := follows_membersBehind style (indent + 1) xs (blank_newline style indent) rest
    rw [List.append_assoc, chars_object_cons, value, skipSpace_blanks hblanks rfl]
    change (members (value depth) _ true _).map _ = _
    rw [members_name style (indent + 1) (nextName_first hblank _) hx hfollows,
      members_behind style (indent + 1) hxs ?_ (blank_newline style indent)]
    · rfl
    · have hlength := length_le_membersBehind style (indent + 1) xs
      simp only [List.length_append, List.length_cons]
      omega

end Reader

theorem parse_compact {j k : Json}
    (h : Reader.Reads (Reader.value Reader.maxDepth) (chars .compact 0 j) k) :
    parse j.compact = .ok k := by
  have hread := Reader.readAll_blanks h Reader.blank_nil
  rwa [List.append_nil] at hread

theorem parse_compact_texts {entries : Members String} (h : entries.Sorted) :
    parse (object (entries.map fun entry => (entry.1, .string entry.2))).compact =
      .ok (.object (entries.map fun entry => (entry.1, .string entry.2))) := by
  have htexts : ∀ entry ∈ entries.map fun entry => (entry.1, string entry.2),
      Reader.Reads (Reader.value 126) (chars .compact 1 entry.2) entry.2 := by
    rw [List.forall_mem_map]
    intro entry _
    rw [chars]
    exact Reader.reads_value_string 126 entry.2
  have hread := Reader.reads_value_object .compact 0 htexts
  rw [(h.map fun _ => string).ofList_eq] at hread
  exact parse_compact hread

/-! ## Line breaks -/

private theorem return_not_mem_escape (c : Char) : '\r' ∉ escape c := by
  have hdigit : ∀ n < 16, Text.hexLower n ≠ '\r' := by decide
  unfold escape
  split_ifs with _ _ _ hreturn
  iterate 7 decide
  · rename_i hcontrol
    have hhigh := hdigit (c.toNat / 16) (by omega)
    have hlow := hdigit (c.toNat % 16) (Nat.mod_lt _ (by decide))
    simp [hhigh.symm, hlow.symm]
  · rw [List.mem_singleton]
    exact Ne.symm hreturn

theorem return_not_mem_quoted (s : String) : '\r' ∉ quoted s := by
  simp [quoted, return_not_mem_escape]

private theorem return_not_mem_membersBehind (entries : List (String × String)) :
    '\r' ∉ membersBehind .compact 1 (entries.map fun entry => (entry.1, string entry.2)) := by
  induction entries with
  | nil => exact List.not_mem_nil
  | cons entry entries ih =>
    simp [membersBehind, Style.newline, Style.colon, chars, return_not_mem_quoted, ih]

/-- Texts under names are written on one line. -/
theorem return_not_mem_compact_texts (entries : List (String × String)) :
    '\r' ∉ (object (entries.map fun entry => (entry.1, .string entry.2))).compact.toList := by
  rw [compact, String.toList_ofList]
  cases entries with
  | nil => decide
  | cons entry entries =>
    have hbehind := return_not_mem_membersBehind entries
    rw [List.map_cons, chars, memberChars_cons]
    · simp [Style.newline, Style.colon, chars, return_not_mem_quoted, hbehind]
    · exact List.cons_ne_nil _ _

end MerchantApi.Json
