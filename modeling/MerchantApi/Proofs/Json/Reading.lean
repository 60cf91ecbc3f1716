import MerchantApi.Json.Printer
import MerchantApi.Json.RecordReader
import MerchantApi.Proofs.Entity.Lawful
import Mathlib.Data.List.Forall2
import Mathlib.Data.List.TakeWhile
/-!
# Reading what was printed

A reader undoes the printer when it returns what was printed and leaves what
follows, whatever blanks stand before the text and whatever follows it.  Strings
and integers are such texts, and arrays and records of such texts are again.
-/

namespace MerchantApi.Json

namespace Reader

variable {α β σ : Type}

/-! ## Blanks -/

def Blank (cs : List Char) : Prop := ∀ c ∈ cs, isSpace c = true

/-- What may follow a value: nothing, a blank, a comma or a closing bracket. -/
def Follows (rest : List Char) : Prop :=
  ∀ c ∈ rest.head?, isSpace c = true ∨ c = ',' ∨ c = ']' ∨ c = '}'

def Opens (text : List Char) : Prop :=
  ∃ c cs, text = c :: cs ∧ isSpace c = false ∧ c ≠ ']'

private theorem skipSpace_cons {c : Char} (hc : isSpace c = false) (rest : List Char) :
    skipSpace (c :: rest) = c :: rest :=
  List.dropWhile_cons_of_neg (by rw [hc]; exact Bool.false_ne_true)

theorem skipSpace_blanks {blanks : List Char} (h : Blank blanks) {c : Char}
    (hc : isSpace c = false) (rest : List Char) :
    skipSpace (blanks ++ c :: rest) = c :: rest :=
  (List.dropWhile_append_of_pos h).trans (skipSpace_cons hc rest)

theorem blank_nil : Blank [] := nofun

theorem blank_newline (style : Style) (depth : Nat) : Blank (style.newline depth) := by
  cases style with
  | compact => exact blank_nil
  | indented =>
    intro c hc
    obtain rfl | hc := List.mem_cons.1 hc
    · rfl
    · rw [List.eq_of_mem_replicate hc]
      rfl

/-- Reading a printed text: the reader skips the blanks before it, returns the
value and leaves the rest. -/
structure Reads (reader : List Char → Reading α) (text : List Char) (a : α) : Prop where
  opens : Opens text
  reads : ∀ blanks rest, Blank blanks → Follows rest →
    reader (blanks ++ text ++ rest) = .ok (a, rest)

theorem Reads.map {reader : List Char → Reading α} {text : List Char} {a : α}
    (h : Reads reader text a) (f : α → β) :
    Reads (fun cs => (reader cs).map fun (a, cs) => (f a, cs)) text (f a) := by
  refine ⟨h.opens, fun blanks rest hblanks hrest => ?_⟩
  simp only [h.reads blanks rest hblanks hrest]
  rfl

theorem Blank.follows {blanks : List Char} (h : Blank blanks) : Follows blanks :=
  fun c hc => .inl (h c (List.mem_of_mem_head? hc))

theorem readAll_blanks {reader : List Char → Reading α} {text : List Char} {a : α}
    (h : Reads reader text a) {blanks : List Char} (hblanks : Blank blanks) :
    readAll reader (String.ofList (text ++ blanks)) = .ok a := by
  have hread := h.reads [] blanks blank_nil hblanks.follows
  have hskip : skipSpace blanks = [] := List.dropWhile_eq_nil_iff.2 hblanks
  rw [readAll, String.toList_ofList, ← List.nil_append text, hread, finish, hskip]

theorem readAll_line {reader : List Char → Reading α} {text : List Char} {a : α}
    (h : Reads reader text a) : readAll reader (String.ofList text ++ "\n") = .ok a := by
  have hline : String.ofList text ++ "\n" = String.ofList (text ++ ['\n']) := by
    rw [String.ofList_append]
  rw [hline]
  exact readAll_blanks h (by rintro _ (_ | ⟨_, ⟨⟩⟩); rfl)

/-! ## Strings -/

private theorem hex4?_of_lt : ∀ n < 32,
    hex4? '0' '0' (Text.hexLower (n / 16)) (Text.hexLower (n % 16)) = some n := by
  decide

private theorem stringBody_hex {c : Char} (h : c.toNat < 32) (acc rest : List Char) :
    stringBody acc ('\\' :: 'u' :: '0' :: '0' :: Text.hexLower (c.toNat / 16) ::
      Text.hexLower (c.toNat % 16) :: rest) = stringBody (c :: acc) rest := by
  have hcloses : Text.closesPair c.toNat = false := by
    simp only [Text.closesPair, Bool.and_eq_false_iff, decide_eq_false_iff_not]
    omega
  have hopens : Text.opensPair c.toNat = false := by
    simp only [Text.opensPair, Bool.and_eq_false_iff, decide_eq_false_iff_not]
    omega
  rw [stringBody, hex4?_of_lt c.toNat h]
  simp only [hcloses, hopens, Bool.false_eq_true, if_false, Char.ofNat_toNat]

private theorem stringBody_plain {c : Char} (hquote : c ≠ '"') (hslash : c ≠ '\\')
    (h : ¬ c.toNat < 32) (acc rest : List Char) :
    stringBody acc (c :: rest) = stringBody (c :: acc) rest := by
  rw [stringBody, if_neg h]
  · exact hquote
  all_goals simp [hslash]

/-- An escaped character is read as the character. -/
theorem stringBody_escape (c : Char) (acc rest : List Char) :
    stringBody acc (escape c ++ rest) = stringBody (c :: acc) rest := by
  have hnamed : ∀ n, c.toNat = n → c = Char.ofNat n := by
    rintro _ rfl
    exact (Char.ofNat_toNat c).symm
  unfold escape
  split
  · subst c
    rfl
  split
  · subst c
    rfl
  split
  · subst c
    rfl
  split
  · subst c
    rfl
  split
  · subst c
    rfl
  split
  · rename_i hc
    obtain rfl := hnamed 8 hc
    rfl
  split
  · rename_i hc
    obtain rfl := hnamed 12 hc
    rfl
  split
  · rename_i hc
    exact stringBody_hex hc acc rest
  · rename_i hquote hslash _ _ _ _ _ hc
    exact stringBody_plain hquote hslash hc acc rest

theorem stringBody_quoted (s rest : List Char) (acc : List Char) :
    stringBody acc (s.flatMap escape ++ '"' :: rest) =
      .ok (String.ofList (acc.reverse ++ s), rest) := by
  induction s generalizing acc with
  | nil => rw [List.append_nil]; rfl
  | cons c s ih =>
    rw [List.flatMap_cons, List.append_assoc, stringBody_escape, ih, List.reverse_cons,
      List.append_assoc]
    rfl

/-- A string whose opening quote was read is read up to its closing quote. -/
theorem stringBody_text (s : String) (rest : List Char) :
    stringBody [] (s.toList.flatMap escape ++ '"' :: rest) = .ok (s, rest) := by
  rw [stringBody_quoted, List.reverse_nil, List.nil_append, String.ofList_toList]

theorem opens_quoted (s : String) : Opens (quoted s) := ⟨'"', _, rfl, rfl, by decide⟩

theorem reads_text (s : String) : Reads text (quoted s) s := by
  refine ⟨opens_quoted s, fun blanks rest hblanks _ => ?_⟩
  rw [List.append_assoc, quoted, List.cons_append, text, skipSpace_blanks hblanks rfl]
  simp only [List.append_assoc, List.cons_append, List.nil_append]
  rw [stringBody_text]

/-! ## Integers -/

theorem Follows.not_number {c : Char} {rest : List Char} (h : Follows (c :: rest)) :
    c.isDigit = false ∧ c ≠ '.' ∧ opensExponent c = false := by
  have hc : isSpace c = true ∨ c = ',' ∨ c = ']' ∨ c = '}' := h c rfl
  simp only [isSpace, Bool.or_eq_true, decide_eq_true_eq, or_assoc] at hc
  rcases hc with rfl | rfl | rfl | rfl | rfl | rfl | rfl <;> decide

theorem Follows.dropWhile_isDigit {rest : List Char} (h : Follows rest) :
    rest.dropWhile Char.isDigit = rest := by
  cases rest with
  | nil => rfl
  | cons c rest =>
    apply List.dropWhile_cons_of_neg
    rw [h.not_number.1]
    exact Bool.false_ne_true

private theorem le_ofDigitChars (digits : List Char) (value : Nat) :
    value ≤ Nat.ofDigitChars 10 digits value := by
  have hpos : 0 < 10 ^ digits.length := Nat.pow_pos (by decide)
  have hscaled := Nat.le_mul_of_pos_left value hpos
  rw [Nat.ofDigitChars_eq_ofDigitChars_zero]
  omega

/-- Digits are absorbed as far as they go, if their number has 64 bits. -/
theorem absorb_digits {digits rest : List Char} (hdigits : ∀ c ∈ digits, c.isDigit = true)
    (hrest : Follows rest) {value : Nat} (h : Nat.ofDigitChars 10 digits value < UInt64.size) :
    absorb value (digits ++ rest) = (Nat.ofDigitChars 10 digits value, rest) := by
  induction digits generalizing value with
  | nil =>
    cases rest with
    | nil => rfl
    | cons c rest =>
      rw [List.nil_append, absorb, hrest.not_number.1, Bool.false_and]
      rfl
  | cons c digits ih =>
    obtain ⟨hc, hdigits⟩ := List.forall_mem_cons.1 hdigits
    have hstep : 10 * value + (c.toNat - '0'.toNat) = value * 10 + digitValue c := by
      rw [Nat.mul_comm]
      rfl
    rw [Nat.ofDigitChars_cons, hstep] at h ⊢
    have hfits := Nat.lt_of_le_of_lt (le_ofDigitChars digits _) h
    rw [List.cons_append, absorb, hc, decide_eq_true hfits, Bool.and_self, if_pos rfl]
    exact ih hdigits h

/-- A number that is not zero has no leading zero. -/
theorem head?_toDigits {n : Nat} (h : 0 < n) : (Nat.toDigits 10 n).head? ≠ some '0' := by
  induction n using Nat.strongRecOn with
  | ind n ih =>
    by_cases hn : n < 10
    · rw [Nat.toDigits_of_lt_base hn]
      have hsmall : ∀ m < 10, 0 < m → [Nat.digitChar m].head? ≠ some '0' := by decide
      exact hsmall n hn h
    · rw [Nat.toDigits_of_base_le (by decide) (Nat.le_of_not_lt hn),
        List.head?_append_of_ne_nil _ Nat.toDigits_ne_nil]
      exact ih (n / 10) (by omega) (by omega)

theorem number_toDigits (negative : Bool) {n : Nat} (hn : n < UInt64.size) {rest : List Char}
    (hrest : Follows rest) :
    number negative (Nat.toDigits 10 n ++ rest) = number.whole negative n 0 rest := by
  have hvalue : Nat.ofDigitChars 10 (Nat.toDigits 10 n) 0 = n := Nat.ofDigitChars_ten_toDigits
  cases hdigits : Nat.toDigits 10 n with
  | nil => exact absurd hdigits Nat.toDigits_ne_nil
  | cons c digits =>
    have hall : ∀ d ∈ c :: digits, d.isDigit = true := fun d hd =>
      Nat.isDigit_of_mem_toDigits (by decide) (by decide) (hdigits ▸ hd)
    obtain ⟨hc, htail⟩ := List.forall_mem_cons.1 hall
    have hfirst : 10 * 0 + (c.toNat - '0'.toNat) = digitValue c := Nat.zero_add _
    rw [hdigits, Nat.ofDigitChars_cons, hfirst] at hvalue
    -- A zero comes first only where it is the whole number, and no digit follows that.
    have hzero : ¬ (c = '0' ∧ ((digits ++ rest).head?.any Char.isDigit) = true) := by
      rintro ⟨rfl, hmore⟩
      have hn0 : n = 0 := by
        by_contra hpos
        refine head?_toDigits (Nat.pos_of_ne_zero hpos) ?_
        rw [hdigits]
        rfl
      rw [hn0, Nat.toDigits_zero] at hdigits
      obtain rfl : digits = [] := (List.cons.inj hdigits).2.symm
      cases rest with
      | nil => cases hmore
      | cons d rest =>
        have hd : d.isDigit = true := hmore
        rw [hrest.not_number.1] at hd
        cases hd
    rw [List.cons_append, number, if_neg (by rw [hc]; decide), if_neg hzero,
      absorb_digits htail hrest (hvalue ▸ hn), hvalue]
    simp only [hrest.dropWhile_isDigit, Nat.sub_self]
    cases rest with
    | nil => rfl
    | cons d rest =>
      obtain ⟨-, hpoint, hexponent⟩ := hrest.not_number
      split
      · rename_i heq
        exact absurd (List.cons.inj heq).1 hpoint
      · simp only [hexponent, Bool.false_eq_true, if_false]

private theorem whole_natAbs (w : WideInt) (rest : List Char) :
    number.whole (decide (w.val < 0)) w.val.natAbs 0 rest = .ok (.int w, rest) := by
  have hvalue : (if decide (w.val < 0) = true then -(w.val.natAbs : Int) else w.val.natAbs) =
      w.val := by
    split
    · rename_i hneg
      have := of_decide_eq_true hneg
      omega
    · rename_i hneg
      have := of_decide_eq_false (Bool.eq_false_of_not_eq_true hneg)
      omega
  have hsign : 0 = 0 ∧ (!(decide (decide (w.val < 0) = true ∧ w.val.natAbs = 0))) = true := by
    refine ⟨rfl, ?_⟩
    rw [Bool.not_eq_true', decide_eq_false_iff_not]
    rintro ⟨hneg, hzero⟩
    have := of_decide_eq_true hneg
    omega
  have hint : WideInt.ofInt? w.val = some w := by
    rw [WideInt.ofInt?, dif_pos ⟨w.lower, w.upper⟩]
  rw [number.whole, hvalue, if_pos hsign, hint]

theorem number_natAbs (w : WideInt) {rest : List Char} (hrest : Follows rest) :
    number (decide (w.val < 0)) (Nat.toDigits 10 w.val.natAbs ++ rest) =
      .ok (.int w, rest) := by
  have hsize : w.val.natAbs < UInt64.size := by
    have hlower := w.lower
    have hupper := w.upper
    change w.val.natAbs < 18446744073709551616
    omega
  rw [number_toDigits _ hsize hrest, whole_natAbs]

private theorem not_blank_of_isDigit {c : Char} (h : c.isDigit = true) :
    isSpace c = false ∧ c ≠ ']' ∧ c ≠ '-' := by
  refine ⟨Bool.eq_false_of_not_eq_true fun hspace => ?_, ?_, ?_⟩
  · simp only [isSpace, Bool.or_eq_true, decide_eq_true_eq, or_assoc] at hspace
    rcases hspace with rfl | rfl | rfl | rfl <;> cases h
  · rintro rfl
    cases h
  · rintro rfl
    cases h

private theorem exists_toDigits_cons (n : Nat) :
    ∃ c digits, Nat.toDigits 10 n = c :: digits ∧ c.isDigit = true := by
  cases hdigits : Nat.toDigits 10 n with
  | nil => exact absurd hdigits Nat.toDigits_ne_nil
  | cons c digits =>
    exact ⟨c, digits, rfl, Nat.isDigit_of_mem_toDigits (b := 10) (n := n) (by decide) (by decide)
      (hdigits ▸ List.mem_cons_self)⟩

/-- An integer that opens with a sign or a digit is read as a number is. -/
theorem int64_of_number {blanks cs rest : List Char} {c : Char} {n : Int64}
    (hblanks : Blank blanks) (hspace : isSpace c = false) (hc : c = '-' ∨ c.isDigit = true)
    (h : (if c = '-' then number true cs else number false (c :: cs)) =
      .ok (.int (.ofInt64 n), rest)) :
    int64 (blanks ++ c :: cs) = .ok (n, rest) := by
  have hvalue : asInt64 (.number (.int (.ofInt64 n))) = .ok n := asInt64_ofInt64 n
  rw [int64, skipSpace_blanks hblanks hspace]
  simp only [if_pos hc, h, hvalue]

theorem reads_int64 (n : Int64) : Reads int64 (WideInt.ofInt64 n).chars n := by
  obtain ⟨c, digits, hdigits, hc⟩ := exists_toDigits_cons (WideInt.ofInt64 n).val.natAbs
  obtain ⟨hspace, hclose, hminus⟩ := not_blank_of_isDigit hc
  have hnumber := @number_natAbs (.ofInt64 n)
  rw [hdigits] at hnumber
  rw [WideInt.chars, hdigits]
  by_cases hneg : (WideInt.ofInt64 n).val < 0
  · rw [decide_eq_true hneg] at hnumber
    rw [if_pos hneg]
    refine ⟨⟨'-', _, rfl, by decide, by decide⟩, fun blanks rest hblanks hrest => ?_⟩
    rw [List.append_assoc]
    apply int64_of_number hblanks (by decide) (.inl rfl)
    exact hnumber hrest
  · rw [decide_eq_false hneg] at hnumber
    rw [if_neg hneg]
    refine ⟨⟨c, _, rfl, hspace, hclose⟩, fun blanks rest hblanks hrest => ?_⟩
    rw [List.append_assoc]
    apply int64_of_number hblanks hspace (.inr hc)
    rw [if_neg hminus]
    exact hnumber hrest

end Reader

end MerchantApi.Json
