import MerchantApi.Instant.Text
import MerchantApi.Proofs.Calendar
/-!
# Texts of instants are read back

The extended syntax reads the text of every instant back to that instant.  The
standard syntax does so for the instants whose year has four digits, and
refuses the texts of all others.
-/

namespace MerchantApi.Instant

/-! ## Runs of digits -/

private theorem digits_append (ds : List Char) (hds : ∀ c ∈ ds, c.isDigit = true) (value : Nat)
    (rest : List Char) :
    digits value ds.length (ds ++ rest) = some (Nat.ofDigitChars 10 ds value, rest) := by
  induction ds generalizing value with
  | nil => simp [digits]
  | cons c ds ih =>
    rw [List.length_cons, List.cons_append, digits, if_pos (hds c (by simp)),
      ih (fun d hd => hds d (by simp [hd])), Nat.ofDigitChars_cons, Nat.mul_comm]
    rfl

theorem takeWhile_isDigit_append (ds : List Char) (hds : ∀ c ∈ ds, c.isDigit = true) {c : Char}
    (hc : c.isDigit = false) (rest : List Char) :
    (ds ++ c :: rest).takeWhile Char.isDigit = ds := by
  rw [List.takeWhile_append_of_pos hds, List.takeWhile_cons_of_neg (by simp [hc]),
    List.append_nil]

theorem dropWhile_isDigit_append (ds : List Char) (hds : ∀ c ∈ ds, c.isDigit = true) {c : Char}
    (hc : c.isDigit = false) (rest : List Char) :
    (ds ++ c :: rest).dropWhile Char.isDigit = c :: rest := by
  rw [List.dropWhile_append_of_pos hds, List.dropWhile_cons_of_neg (by simp [hc])]

/-! ## Numbers of a fixed width -/

@[simp] theorem length_fixed (width n : Nat) : (fixed width n).length = width := by
  induction width generalizing n with
  | zero => rfl
  | succ width ih => simp [fixed, ih]

private theorem isDigit_of_mem_fixed {width n : Nat} {c : Char} (hc : c ∈ fixed width n) :
    c.isDigit = true := by
  induction width generalizing n with
  | zero => simp [fixed] at hc
  | succ width ih =>
    rw [fixed, List.mem_append, List.mem_singleton] at hc
    rcases hc with hc | rfl
    · exact ih hc
    · rw [Nat.isDigit_digitChar, decide_eq_true_eq]
      omega

private theorem ofDigitChars_fixed (width n : Nat) :
    Nat.ofDigitChars 10 (fixed width n) 0 = n % 10 ^ width := by
  induction width generalizing n with
  | zero => simp [fixed, Nat.mod_one]
  | succ width ih =>
    rw [fixed, Nat.ofDigitChars_append, ih,
      Nat.ofDigitChars_cons_digitChar_of_lt_ten (by omega), Nat.ofDigitChars_nil,
      Nat.pow_succ, Nat.mul_comm (10 ^ width), Nat.mod_mul]
    omega

theorem digits_fixed {width n : Nat} (hn : n < 10 ^ width) (rest : List Char) :
    digits 0 width (fixed width n ++ rest) = some (n, rest) := by
  have hread := digits_append (fixed width n) (fun _ => isDigit_of_mem_fixed) 0 rest
  rwa [length_fixed, ofDigitChars_fixed, Nat.mod_eq_of_lt hn] at hread

/-! ## Years -/

private theorem isDigit_of_mem_atLeastFour {n : Nat} {c : Char} (hc : c ∈ atLeastFour n) :
    c.isDigit = true := by
  rcases List.mem_append.1 hc with hc | hc
  · rw [List.eq_of_mem_replicate hc]
    rfl
  · exact Nat.isDigit_of_mem_toDigits (by decide) (by decide) hc

private theorem ofDigitChars_atLeastFour (n : Nat) : Nat.ofDigitChars 10 (atLeastFour n) 0 = n := by
  simp only [atLeastFour, Nat.ofDigitChars_append, Nat.ofDigitChars_replicate_zero,
    Nat.mul_zero, Nat.ofDigitChars_ten_toDigits]

private theorem length_atLeastFour {n : Nat} (hn : n ≤ 9999) : (atLeastFour n).length = 4 := by
  have hdigits : (Nat.toDigits 10 n).length ≤ 4 :=
    (Nat.length_toDigits_le_iff (by decide) (by decide)).2 (by omega)
  simp only [atLeastFour, List.length_append, List.length_replicate]
  omega

/-- Whether the year of an instant has four digits and no sign, which are the
years that RFC 3339 can write. -/
def HasPlainYear (t : Instant) : Prop := 0 ≤ t.date.year ∧ t.date.year ≤ 9999

instance : DecidablePred HasPlainYear := fun _ => inferInstanceAs (Decidable (_ ∧ _))

private theorem yearChars_of_plain {year : Int} (hyear : 0 ≤ year ∧ year ≤ 9999) :
    yearChars year = atLeastFour year.toNat := by
  rw [yearChars, if_pos hyear]

private theorem yearChars_of_not_plain {year : Int} (hyear : ¬(0 ≤ year ∧ year ≤ 9999)) :
    yearChars year = (if year < 0 then '-' else '+') :: atLeastFour year.natAbs := by
  rw [yearChars, if_neg hyear]

theorem readYear_standard_plain {year : Int} (hyear : 0 ≤ year ∧ year ≤ 9999)
    (rest : List Char) : readYear .standard (yearChars year ++ rest) = some (year, rest) := by
  have hread := digits_append (atLeastFour year.toNat) (fun _ => isDigit_of_mem_atLeastFour) 0 rest
  rw [length_atLeastFour (by omega), ofDigitChars_atLeastFour] at hread
  rw [yearChars_of_plain hyear, readYear, hread]
  · simp only [Option.map_some, Int.toNat_of_nonneg hyear.1]
  · simp
  · simp

theorem readYear_standard_not_plain {year : Int} (hyear : ¬(0 ≤ year ∧ year ≤ 9999))
    (rest : List Char) : readYear .standard (yearChars year ++ rest) = none := by
  rw [yearChars_of_not_plain hyear]
  split <;> rfl

/-- A text that starts with a digit is read alike with both syntaxes. -/
theorem readYear_extended_of_isDigit {c : Char} (hc : c.isDigit = true) (cs : List Char) :
    readYear .extended (c :: cs) = readYear .standard (c :: cs) := by
  rw [readYear, readYear]
  · simp
  · simp
  · rintro rest - ⟨⟩
    exact absurd hc (by decide)
  · rintro rest - ⟨⟩
    exact absurd hc (by decide)

theorem readYear_extended (year : Int) (rest : List Char) :
    readYear .extended (yearChars year ++ '-' :: rest) = some (year, '-' :: rest) := by
  by_cases hyear : 0 ≤ year ∧ year ≤ 9999
  · rw [← readYear_standard_plain hyear, yearChars_of_plain hyear]
    have hlength := length_atLeastFour (n := year.toNat) (by omega)
    cases hdigits : atLeastFour year.toNat with
    | nil => simp [hdigits] at hlength
    | cons c cs =>
      have hc : c ∈ atLeastFour year.toNat := by simp [hdigits]
      exact readYear_extended_of_isDigit (isDigit_of_mem_atLeastFour hc) _
  · have hrun := takeWhile_isDigit_append (atLeastFour year.natAbs)
      (fun _ => isDigit_of_mem_atLeastFour) (c := '-') rfl rest
    have hread := digits_append (atLeastFour year.natAbs) (fun _ => isDigit_of_mem_atLeastFour)
      0 ('-' :: rest)
    rw [ofDigitChars_atLeastFour] at hread
    rw [yearChars_of_not_plain hyear]
    split
    · simp only [List.cons_append, readYear, hrun, hread, Option.map_some]
      congr 2
      omega
    · simp only [List.cons_append, readYear, hrun, hread, Option.map_some]
      congr 2
      omega

/-! ## Fractions -/

/-- A fraction of `width` digits counts units of ten to the power of nine less
the width. -/
theorem readFraction_fixed {width n : Nat} (hpos : 0 < width) (hwidth : width ≤ 9)
    (hn : n < 10 ^ width) (rest : List Char) :
    readFraction ('.' :: fixed width n ++ 'Z' :: rest) =
      some (n * 10 ^ (9 - width), 'Z' :: rest) := by
  have hdigits : ∀ c ∈ fixed width n, c.isDigit = true := fun _ => isDigit_of_mem_fixed
  have hlength := length_fixed width n
  have hnonempty : (fixed width n).isEmpty = false := by
    rw [List.isEmpty_eq_false_iff, ← List.length_pos_iff, hlength]
    exact hpos
  have htake : (fixed width n).take 9 = fixed width n :=
    List.take_of_length_le (by omega)
  rw [List.cons_append, readFraction]
  simp only [takeWhile_isDigit_append _ hdigits (c := 'Z') rfl, hnonempty,
    dropWhile_isDigit_append _ hdigits (c := 'Z') rfl, htake, hlength, ofDigitChars_fixed,
    Nat.mod_eq_of_lt hn]
  rfl

theorem readFraction_fractionChars {nanos : Nat} (hnanos : nanos < 1000000000)
    (rest : List Char) :
    readFraction (fractionChars nanos ++ 'Z' :: rest) = some (nanos, 'Z' :: rest) := by
  rw [fractionChars]
  split
  · rename_i hzero
    subst hzero
    rfl
  · split
    · rw [readFraction_fixed (by decide) (by decide) (by omega)]
      congr 2
      omega
    · split
      · rw [readFraction_fixed (by decide) (by decide) (by omega)]
        congr 2
        omega
      · rw [readFraction_fixed (by decide) (by decide) (by omega)]
        congr 2
        omega

/-! ## Moments -/

theorem ofSeconds?_eq_some_iff {seconds : Int} {nanos : Nat} {t : Instant} :
    ofSeconds? seconds nanos = some t ↔ t.seconds = seconds ∧ t.nanos = nanos := by
  constructor
  · intro h
    rw [ofSeconds?, Option.dite_none_right_eq_some] at h
    obtain ⟨hrange, h⟩ := h
    rw [← Option.some.inj h]
    exact ⟨rfl, rfl⟩
  · rintro ⟨rfl, rfl⟩
    rw [ofSeconds?, dif_pos ⟨t.lower, t.upper, t.nanos_lt, t.leap_last⟩]

/-- Whether milliseconds since 1970 fall in the years from -262143 to 262142. -/
def MillisInRange (millis : Int) : Prop :=
  (⟨-262143, 1, 1⟩ : Calendar.Date).toDays * 86400000 ≤ millis ∧
    millis < (⟨262143, 1, 1⟩ : Calendar.Date).toDays * 86400000

theorem millisInRange_iff (millis : Int) :
    MillisInRange millis ↔ -8334601228800000 ≤ millis ∧ millis < 8210266876800000 := by
  have hfirst : (⟨-262143, 1, 1⟩ : Calendar.Date).toDays = -96465292 := rfl
  have hlast : (⟨262143, 1, 1⟩ : Calendar.Date).toDays = 95026237 := rfl
  rw [MillisInRange, hfirst, hlast]
  omega

theorem ofMillis?_eq_some_iff {millis : Int} {t : Instant} :
    ofMillis? millis = some t ↔
      t.millis = millis ∧ t.nanos < 10 ^ 9 ∧ t.nanos % 10 ^ 6 = 0 := by
  rw [ofMillis?, ofSeconds?_eq_some_iff, Instant.millis]
  omega

theorem exists_ofMillis?_iff {millis : Int} :
    (∃ t, ofMillis? millis = some t) ↔ MillisInRange millis := by
  rw [millisInRange_iff]
  constructor
  · rintro ⟨t, h⟩
    have hlower := t.lower
    have hupper := t.upper
    rw [ofMillis?, ofSeconds?_eq_some_iff] at h
    omega
  · intro h
    exact ⟨⟨millis / 1000, (millis % 1000).toNat * 1000000, by omega, by omega, by omega,
      fun hleap => by omega⟩, ofSeconds?_eq_some_iff.2 ⟨rfl, rfl⟩⟩

/-! ## Instants -/

private theorem month_lt (t : Instant) : t.date.month < 10 ^ 2 := by
  have hvalid := Calendar.isValid_ofDays (t.seconds / 86400)
  simp only [Calendar.Date.isValid, Bool.and_eq_true, decide_eq_true_eq] at hvalid
  have hmonth : t.date.month ≤ 12 := hvalid.1.1.2
  omega

private theorem day_lt (t : Instant) : t.date.day < 10 ^ 2 := by
  have hvalid := Calendar.isValid_ofDays (t.seconds / 86400)
  simp only [Calendar.Date.isValid, Bool.and_eq_true, decide_eq_true_eq] at hvalid
  have hday : t.date.day ≤ Calendar.daysInMonth t.date.year t.date.month := hvalid.2
  have hlength := Calendar.daysInMonth_le t.date.year t.date.month
  omega

private theorem secondOfDay_lt (t : Instant) : t.secondOfDay < 86400 := by
  rw [secondOfDay]
  omega

/-- A leap second follows the second 59 of its minute. -/
theorem secondOfDay_of_leap (t : Instant) (hleap : 1000000000 ≤ t.nanos) :
    t.secondOfDay % 60 = 59 := by
  have hlast := t.leap_last hleap
  rw [secondOfDay]
  omega

theorem assemble_parts (t : Instant) :
    assemble t.date (t.secondOfDay / 3600) (t.secondOfDay / 60 % 60)
      (t.secondOfDay % 60 + t.nanos / 1000000000) (t.nanos % 1000000000) 0 = some t := by
  have hday := secondOfDay_lt t
  have hnanos := t.nanos_lt
  have hleap := secondOfDay_of_leap t
  have hvalid : t.date.isValid = true := Calendar.isValid_ofDays _
  have hdays : t.date.toDays = t.seconds / 86400 := Calendar.toDays_ofDays _
  have hcarry : (t.secondOfDay % 60 + t.nanos / 1000000000) / 60 = t.nanos / 1000000000 := by
    omega
  have hseconds : t.seconds = t.seconds / 86400 * 86400 + (t.secondOfDay : Int) := by
    rw [secondOfDay]
    omega
  have hfits : t.secondOfDay / 3600 ≤ 23 ∧ t.secondOfDay / 60 % 60 ≤ 59 ∧
      t.secondOfDay % 60 + t.nanos / 1000000000 ≤ 60 := by omega
  rw [assemble, if_pos (by simp [hvalid, hfits])]
  simp only [hcarry, hdays]
  have hmoment : t.seconds / 86400 * 86400 +
      ((t.secondOfDay / 3600 * 3600 + (t.secondOfDay / 60 % 60) * 60 +
        (t.secondOfDay % 60 + t.nanos / 1000000000 - t.nanos / 1000000000) : Nat) : Int) - 0 =
      t.seconds := by omega
  have hfraction : t.nanos % 1000000000 + t.nanos / 1000000000 * 1000000000 = t.nanos := by
    omega
  rw [hmoment, hfraction, ofSeconds?_eq_some_iff]
  exact ⟨rfl, rfl⟩

private theorem bind_of_eq_some {α β : Type} {x : Option α} {a : α} (hx : x = some a)
    (f : α → Option β) : (x >>= f) = f a := by
  rw [hx]
  rfl

/-- A text whose parts are read one after the other names the instant that they
give at the offset. -/
theorem read_of_parts {form : Syntax} {cs cs₁ cs₂ cs₃ cs₄ cs₅ cs₆ cs₇ : List Char} {c : Char}
    {year offset : Int} {month day hour minute second nanos : Nat}
    (hyear : readYear form cs = some (year, '-' :: cs₁))
    (hmonth : digits 0 2 cs₁ = some (month, '-' :: cs₂))
    (hday : digits 0 2 cs₂ = some (day, c :: cs₃))
    (hseparator : c = 'T' ∨ c = 't' ∨ c = ' ')
    (hhour : digits 0 2 cs₃ = some (hour, ':' :: cs₄))
    (hminute : digits 0 2 cs₄ = some (minute, ':' :: cs₅))
    (hsecond : digits 0 2 cs₅ = some (second, cs₆))
    (hfraction : readFraction cs₆ = some (nanos, cs₇))
    (hoffset : readOffset cs₇ = some (offset, [])) :
    read form cs = assemble ⟨year, month, day⟩ hour minute second nanos offset := by
  have hdash : ∀ rest, expect (· = '-') ('-' :: rest) = some rest := fun _ => rfl
  have hcolon : ∀ rest, expect (· = ':') (':' :: rest) = some rest := fun _ => rfl
  have htime : expect (fun c => c = 'T' || c = 't' || c = ' ') (c :: cs₃) = some cs₃ :=
    if_pos (by simpa [or_assoc] using hseparator)
  refine (bind_of_eq_some hyear _).trans ?_
  refine (bind_of_eq_some (hdash cs₁) _).trans ?_
  refine (bind_of_eq_some hmonth _).trans ?_
  refine (bind_of_eq_some (hdash cs₂) _).trans ?_
  refine (bind_of_eq_some hday _).trans ?_
  refine (bind_of_eq_some htime _).trans ?_
  refine (bind_of_eq_some hhour _).trans ?_
  refine (bind_of_eq_some (hcolon cs₄) _).trans ?_
  refine (bind_of_eq_some hminute _).trans ?_
  refine (bind_of_eq_some (hcolon cs₅) _).trans ?_
  refine (bind_of_eq_some hsecond _).trans ?_
  refine (bind_of_eq_some hfraction _).trans ?_
  exact (bind_of_eq_some hoffset _).trans rfl

theorem read_chars (form : Syntax) (t : Instant)
    (hyear : ∀ rest, readYear form (yearChars t.date.year ++ '-' :: rest) =
      some (t.date.year, '-' :: rest)) :
    read form t.chars = some t := by
  have hday := secondOfDay_lt t
  have hnanos := t.nanos_lt
  have hleap := secondOfDay_of_leap t
  have hhour : t.secondOfDay / 3600 < 10 ^ 2 := by omega
  have hminute : t.secondOfDay / 60 % 60 < 10 ^ 2 := by omega
  have hsecond : t.secondOfDay % 60 + t.nanos / 1000000000 < 10 ^ 2 := by omega
  have hfraction : t.nanos % 1000000000 < 1000000000 := by omega
  simp only [chars, List.append_assoc, List.cons_append]
  rw [read_of_parts (hyear _) (digits_fixed (month_lt t) _) (digits_fixed (day_lt t) _)
    (Or.inl rfl) (digits_fixed hhour _) (digits_fixed hminute _) (digits_fixed hsecond _)
    (readFraction_fractionChars hfraction _) rfl]
  exact assemble_parts t

theorem parse_extended_text (t : Instant) : parse .extended t.text = some t := by
  rw [parse, text, String.toList_ofList]
  exact read_chars _ t (readYear_extended t.date.year)

theorem parse_standard_text {t : Instant} (hyear : t.HasPlainYear) :
    parse .standard t.text = some t := by
  rw [parse, text, String.toList_ofList]
  exact read_chars _ t fun rest => readYear_standard_plain hyear ('-' :: rest)

theorem parse_standard_text_eq_none {t : Instant} (hyear : ¬t.HasPlainYear) :
    parse .standard t.text = none := by
  have hread : readYear .standard t.chars = none := by
    simp only [chars, List.append_assoc]
    exact readYear_standard_not_plain hyear _
  rw [parse, text, String.toList_ofList, read, hread]
  rfl

theorem text_injective : Function.Injective text := fun s t h => by
  have hread := parse_extended_text s
  rw [h, parse_extended_text] at hread
  exact (Option.some.inj hread).symm

theorem text_ne_empty (t : Instant) : t.text ≠ "" := by
  intro hempty
  have hread := parse_extended_text t
  rw [hempty] at hread
  exact absurd hread (by rw [show parse .extended "" = none from rfl]; simp)

end MerchantApi.Instant
