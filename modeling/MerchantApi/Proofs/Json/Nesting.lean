import MerchantApi.Proofs.Json.Reading
/-!
# Reading printed arrays and records

The printer puts blanks before every item and before the closing bracket, and a
comma behind every item but the last.  The loops of the readers are followed
along what stands behind an item, where the next comma or the bracket comes.
-/

namespace MerchantApi.Json

/-- What stands behind an item of an array: all further items, after a comma each. -/
def itemsBehind (style : Style) (depth : Nat) : List Json → List Char
  | [] => []
  | x :: rest => ',' :: (style.newline depth ++ chars style depth x ++ itemsBehind style depth rest)

def membersBehind (style : Style) (depth : Nat) : List (String × Json) → List Char
  | [] => []
  | (n, x) :: rest =>
    ',' :: (style.newline depth ++ quoted n ++ style.colon ++ chars style depth x ++
      membersBehind style depth rest)

theorem itemChars_cons (style : Style) (depth : Nat) (x : Json) (rest : List Json) :
    itemChars style depth (x :: rest) =
      style.newline depth ++ chars style depth x ++ itemsBehind style depth rest := by
  induction rest generalizing x with
  | nil => rw [itemChars, itemsBehind, List.append_nil]
  | cons y rest ih =>
    rw [itemChars, ih, itemsBehind]
    exact List.cons_ne_nil y rest

theorem memberChars_cons (style : Style) (depth : Nat) (n : String) (x : Json)
    (rest : List (String × Json)) :
    memberChars style depth ((n, x) :: rest) =
      style.newline depth ++ quoted n ++ style.colon ++ chars style depth x ++
        membersBehind style depth rest := by
  induction rest generalizing n x with
  | nil => rw [memberChars, membersBehind, List.append_nil]
  | cons y rest ih =>
    rw [memberChars, ih, membersBehind]
    exact List.cons_ne_nil y rest

private theorem length_le_itemsBehind (style : Style) (depth : Nat) (xs : List Json) :
    xs.length ≤ (itemsBehind style depth xs).length := by
  induction xs with
  | nil => exact Nat.le_refl 0
  | cons x xs ih =>
    rw [itemsBehind, List.length_cons, List.length_cons, List.length_append]
    omega

theorem length_le_membersBehind (style : Style) (depth : Nat) (xs : List (String × Json)) :
    xs.length ≤ (membersBehind style depth xs).length := by
  induction xs with
  | nil => exact Nat.le_refl 0
  | cons x xs ih =>
    rw [membersBehind, List.length_cons, List.length_cons, List.length_append]
    omega

namespace Reader

variable {α σ : Type} (style : Style) (indent : Nat)

/-! ## Closing brackets -/

private theorem follows_append {blanks : List Char} (h : Blank blanks) {cs : List Char}
    (hcs : Follows cs) : Follows (blanks ++ cs) := by
  cases blanks with
  | nil => exact hcs
  | cons c blanks =>
    intro d hd
    obtain rfl := Option.some.inj hd
    exact Or.inl (h c List.mem_cons_self)

/-! ## Arrays -/

section Arrays

variable {blanks : List Char} (hblanks : Blank blanks) {text : List Char}
include hblanks

private theorem nextItem_close (first : Bool) (rest : List Char) :
    nextItem first (blanks ++ ']' :: rest) = .ok none := by
  rw [nextItem, skipSpace_blanks hblanks rfl]
  rfl

private theorem nextItem_first (htext : Opens text) (rest : List Char) :
    nextItem true (blanks ++ text ++ rest) = .ok (some (text ++ rest)) := by
  obtain ⟨c, cs, rfl, hspace, hclose⟩ := htext
  rw [List.append_assoc, List.cons_append, nextItem, skipSpace_blanks hblanks hspace]
  simp only [if_neg hclose, if_true]

private theorem nextItem_behind (htext : Opens text) (rest : List Char) :
    nextItem false (',' :: (blanks ++ text ++ rest)) = .ok (some (text ++ rest)) := by
  obtain ⟨c, cs, rfl, hspace, hclose⟩ := htext
  have hcomma : skipSpace (',' :: (blanks ++ c :: cs ++ rest)) =
      ',' :: (blanks ++ c :: cs ++ rest) := rfl
  rw [nextItem, hcomma, List.append_assoc, List.cons_append]
  simp only [skipSpace_blanks hblanks hspace, if_neg hclose]
  rfl

end Arrays

private theorem follows_itemsBehind (xs : List Json) {blanks : List Char} (hblanks : Blank blanks)
    (rest : List Char) :
    Follows (itemsBehind style indent xs ++ (blanks ++ ']' :: rest)) := by
  cases xs with
  | nil =>
    refine follows_append hblanks ?_
    rintro c ⟨⟩
    exact .inr (.inr (.inl rfl))
  | cons x xs =>
    rintro c ⟨⟩
    exact .inr (.inl rfl)

theorem items_behind {item : List Char → Reading α} {xs : List Json} {as : List α}
    (h : List.Forall₂ (fun x a => Reads item (chars style indent x) a) xs as) {fuel : Nat}
    (hfuel : xs.length < fuel) {blanks : List Char} (hblanks : Blank blanks)
    (rest : List Char) :
    items item fuel false (itemsBehind style indent xs ++ (blanks ++ ']' :: rest)) =
      .ok (as, rest) := by
  -- Every item takes one unit of fuel, and the bracket takes one more.
  induction h generalizing fuel with
  | nil =>
    obtain ⟨fuel, rfl⟩ := Nat.exists_eq_succ_of_ne_zero (Nat.ne_zero_of_lt hfuel)
    rw [itemsBehind, List.nil_append, items, nextItem_close hblanks,
      skipSpace_blanks hblanks rfl]
    rfl
  | @cons x a xs as hx _ ih =>
    obtain ⟨fuel, rfl⟩ := Nat.exists_eq_succ_of_ne_zero (Nat.ne_zero_of_lt hfuel)
    have hread := hx.reads [] _ blank_nil (follows_itemsBehind style indent xs hblanks rest)
    rw [List.nil_append] at hread
    rw [itemsBehind, List.cons_append, List.append_assoc, items,
      nextItem_behind (blank_newline style indent) hx.opens]
    simp only [hread, ih (Nat.lt_of_succ_lt_succ hfuel)]

theorem chars_array_cons (x : Json) (xs : List Json) (rest : List Char) :
    chars style indent (.array (x :: xs)) ++ rest =
      '[' :: (style.newline (indent + 1) ++ chars style (indent + 1) x ++
        (itemsBehind style (indent + 1) xs ++ (style.newline indent ++ ']' :: rest))) := by
  rw [chars, itemChars_cons]
  · simp only [List.cons_append, List.append_assoc, List.nil_append]
  · exact List.cons_ne_nil x xs

/-- An array of items that are read one level deeper is read as a list. -/
theorem reads_list {item : Nat → List Char → Reading α} {depth : Nat} {xs : List Json}
    {as : List α}
    (h : List.Forall₂ (fun x a => Reads (item depth) (chars style (indent + 1) x) a) xs as) :
    Reads (list item (depth + 1)) (chars style indent (.array xs)) as := by
  cases h with
  | nil =>
    refine ⟨⟨'[', [']'], rfl, rfl, by decide⟩, fun blanks rest hblanks _ => ?_⟩
    rw [List.append_assoc, list, chars, List.cons_append, skipSpace_blanks hblanks rfl]
    simp only [items]
    rw [show [']'] ++ rest = [] ++ ']' :: rest from rfl, nextItem_close blank_nil]
    rfl
  | @cons x a xs as hx hxs =>
    have hopens : Opens (chars style indent (.array (x :: xs))) := by
      have htext := chars_array_cons style indent x xs []
      rw [List.append_nil] at htext
      exact ⟨'[', _, htext, rfl, by decide⟩
    refine ⟨hopens, fun blanks rest hblanks _ => ?_⟩
    have hread := hx.reads [] _ blank_nil
      (follows_itemsBehind style (indent + 1) xs (blank_newline style indent) rest)
    rw [List.nil_append] at hread
    rw [List.append_assoc, chars_array_cons, list, skipSpace_blanks hblanks rfl]
    simp only [items, nextItem_first (blank_newline style (indent + 1)) hx.opens, hread]
    rw [items_behind style (indent + 1) hxs ?_ (blank_newline style indent)]
    -- The fuel is the length of the text, in which every item has a comma before it.
    have hlength := length_le_itemsBehind style (indent + 1) xs
    simp only [List.length_append, List.length_cons]
    omega

/-! ## Records -/

theorem nextName_close {blanks : List Char} (hblanks : Blank blanks) (first : Bool)
    (rest : List Char) : nextName first (blanks ++ '}' :: rest) = .ok none := by
  rw [nextName, skipSpace_blanks hblanks rfl]
  rfl

theorem nextName_first {blanks : List Char} (hblanks : Blank blanks) (rest : List Char) :
    nextName true (blanks ++ '"' :: rest) = .ok (some rest) := by
  rw [nextName, skipSpace_blanks hblanks rfl]
  rfl

theorem nextName_behind {blanks : List Char} (hblanks : Blank blanks) (rest : List Char) :
    nextName false (',' :: (blanks ++ '"' :: rest)) = .ok (some rest) := by
  have hcomma : skipSpace (',' :: (blanks ++ '"' :: rest)) = ',' :: (blanks ++ '"' :: rest) := rfl
  have hquote : skipSpace (blanks ++ '"' :: rest) = '"' :: rest := skipSpace_blanks hblanks rfl _
  rw [nextName, hcomma]
  simp only [hquote]
  rfl

/-- Behind the colon after a name there is nothing but blanks before the value. -/
theorem exists_colon (style : Style) :
    ∃ blanks, Blank blanks ∧ ∀ rest, colon (style.colon ++ rest) = .ok (blanks ++ rest) := by
  cases style with
  | compact => exact ⟨[], blank_nil, fun _ => rfl⟩
  | indented => exact ⟨[' '], by rintro _ (_ | ⟨_, ⟨⟩⟩); rfl, fun _ => rfl⟩

/-- The members of an object, one after the other, fill the slots of a record. -/
inductive Fills (slots : List (TextSlot σ)) (depth : Nat) (style : Style) (indent : Nat) :
    σ → List (String × Json) → σ → Prop where
  | done {state : σ} (hfilled : slots.find? (fun slot => !slot.filled state) = none) :
    Fills slots depth style indent state [] state
  | member {state next final : σ} {name : String} {x : Json} {rest : List (String × Json)}
    {slot : TextSlot σ} (hslot : slots.find? (fun slot => slot.name = name) = some slot)
    (hopen : slot.filled state = false)
    (hread : Reads (fun cs => slot.read depth cs state) (chars style indent x) next)
    (hrest : Fills slots depth style indent next rest final) :
    Fills slots depth style indent state ((name, x) :: rest) final

theorem follows_membersBehind (xs : List (String × Json)) {blanks : List Char}
    (hblanks : Blank blanks) (rest : List Char) :
    Follows (membersBehind style indent xs ++ (blanks ++ '}' :: rest)) := by
  cases xs with
  | nil =>
    refine follows_append hblanks ?_
    rintro c ⟨⟩
    exact .inr (.inr (.inr rfl))
  | cons x xs =>
    rintro c ⟨⟩
    exact .inr (.inl rfl)

variable {slots : List (TextSlot σ)} {depth : Nat}

private theorem slotMembers_name {fuel : Nat} {first : Bool} {cs rest : List Char} {name : String}
    {x : Json} {state next : σ} {slot : TextSlot σ}
    (hname : nextName first cs = .ok (some (name.toList.flatMap escape ++ '"' ::
      (style.colon ++ chars style indent x ++ rest))))
    (hslot : slots.find? (fun slot => slot.name = name) = some slot)
    (hopen : slot.filled state = false)
    (hread : Reads (fun cs => slot.read depth cs state) (chars style indent x) next)
    (hrest : Follows rest) :
    slotMembers slots depth (fuel + 1) first cs state =
      slotMembers slots depth fuel false rest next := by
  obtain ⟨blanks, hblanks, hcolon⟩ := exists_colon style
  have hvalue := hread.reads blanks rest hblanks hrest
  have hafter := hcolon (chars style indent x ++ rest)
  rw [← List.append_assoc, ← List.append_assoc] at hafter
  rw [slotMembers]
  simp only [hname, stringBody_text, hslot, hopen, hafter, Bool.false_eq_true, if_false,
    Except.bind, hvalue]

theorem slotMembers_behind {xs : List (String × Json)} {state final : σ}
    (h : Fills slots depth style indent state xs final) {fuel : Nat} (hfuel : xs.length < fuel)
    {blanks : List Char} (hblanks : Blank blanks) (rest : List Char) :
    slotMembers slots depth fuel false
      (membersBehind style indent xs ++ (blanks ++ '}' :: rest)) state = .ok (final, rest) := by
  induction h generalizing fuel with
  | done hfilled =>
    obtain ⟨fuel, rfl⟩ := Nat.exists_eq_succ_of_ne_zero (Nat.ne_zero_of_lt hfuel)
    rw [membersBehind, List.nil_append, slotMembers, nextName_close hblanks]
    simp only [hfilled]
    rw [skipSpace_blanks hblanks rfl, List.tail_cons]
  | @member state next final name x xs slot hslot hopen hread _ ih =>
    obtain ⟨fuel, rfl⟩ := Nat.exists_eq_succ_of_ne_zero (Nat.ne_zero_of_lt hfuel)
    rw [← ih (Nat.lt_of_succ_lt_succ hfuel)]
    apply slotMembers_name style indent _ hslot hopen hread
    · exact follows_membersBehind style indent xs hblanks rest
    · rw [membersBehind, quoted]
      have hnext := nextName_behind (blank_newline style indent) (name.toList.flatMap escape ++
        '"' :: (style.colon ++ chars style indent x ++
          (membersBehind style indent xs ++ (blanks ++ '}' :: rest))))
      simpa only [List.append_assoc, List.cons_append, List.nil_append] using hnext

theorem chars_object_cons (name : String) (x : Json) (xs : List (String × Json))
    (rest : List Char) :
    chars style indent (.object ((name, x) :: xs)) ++ rest =
      '{' :: (style.newline (indent + 1) ++ '"' :: (name.toList.flatMap escape ++ '"' ::
        (style.colon ++ chars style (indent + 1) x ++
          (membersBehind style (indent + 1) xs ++ (style.newline indent ++ '}' :: rest))))) := by
  rw [chars, memberChars_cons, quoted]
  · simp only [List.cons_append, List.append_assoc, List.nil_append]
  · exact List.cons_ne_nil _ xs

theorem opens_object (xs : List (String × Json)) : Opens (chars style indent (.object xs)) := by
  cases xs with
  | nil => exact ⟨'{', ['}'], rfl, rfl, by decide⟩
  | cons entry xs =>
    have htext := chars_object_cons style indent entry.1 entry.2 xs []
    rw [List.append_nil] at htext
    exact ⟨'{', _, htext, rfl, by decide⟩

/-- An object whose members fill the slots of a record is read as the record. -/
theorem reads_record (title arity : String) {empty final : σ} {xs : List (String × Json)}
    (h : Fills slots depth style (indent + 1) empty xs final) :
    Reads (record title arity slots empty (depth + 1)) (chars style indent (.object xs)) final := by
  refine ⟨opens_object style indent xs, fun blanks rest hblanks _ => ?_⟩
  cases h with
  | done hfilled =>
    rw [List.append_assoc, record, chars, List.cons_append, skipSpace_blanks hblanks rfl]
    simp only [slotMembers]
    rw [show ['}'] ++ rest = [] ++ '}' :: rest from rfl, nextName_close blank_nil]
    simp only [hfilled]
    rfl
  | @member _ next _ name x xs slot hslot hopen hread hrest =>
    have hfollows := follows_membersBehind style (indent + 1) xs (blank_newline style indent) rest
    rw [List.append_assoc, chars_object_cons, record, skipSpace_blanks hblanks rfl]
    simp only [if_true]
    rw [slotMembers_name style (indent + 1) (nextName_first (blank_newline style (indent + 1)) _)
      hslot hopen hread hfollows]
    apply slotMembers_behind style (indent + 1) hrest _ (blank_newline style indent)
    have hlength := length_le_membersBehind style (indent + 1) xs
    simp only [List.length_append, List.length_cons]
    omega

end Reader

end MerchantApi.Json
