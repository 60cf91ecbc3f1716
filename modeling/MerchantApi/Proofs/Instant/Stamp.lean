import MerchantApi.Proofs.Calendar.DayCount
import MerchantApi.Proofs.Instant
import Mathlib.Data.List.Induction
import Mathlib.Data.List.TakeWhile
/-!
# Time stamps

A time stamp of RFC 3339 is a date with four digits of the year, a time of day
and an offset from universal time.  The texts that are read are those of time
stamps, and each is read as the moment that its stamp stands for: days are
counted one after another, the offset is taken off, digits behind the ninth of
the fraction are dropped, and the second 60 is kept as a leap second.
-/

namespace MerchantApi

open Instant (fixed)

/-- An offset from universal time: a letter for none, or a sign with hours and
minutes.  The minus sign U+2212 stands for a hyphen. -/
inductive Zone where
  | zulu (letter : Char)
  | offset (sign : Char) (hours minutes : Nat)

namespace Zone

def IsValid : Zone → Prop
  | zulu letter => letter = 'Z' ∨ letter = 'z'
  | offset sign hours minutes =>
    (sign = '+' ∨ sign = '-' ∨ sign.toNat = 0x2212) ∧ hours ≤ 23 ∧ minutes ≤ 59

instance : DecidablePred IsValid
  | zulu _ => inferInstanceAs (Decidable (_ ∨ _))
  | offset _ _ _ => inferInstanceAs (Decidable (_ ∧ _))

def chars : Zone → List Char
  | zulu letter => [letter]
  | offset sign hours minutes => sign :: (fixed 2 hours ++ ':' :: fixed 2 minutes)

def seconds : Zone → Int
  | zulu _ => 0
  | offset sign hours minutes =>
    if sign = '+' then hours * 3600 + minutes * 60 else -(hours * 3600 + minutes * 60)

variable {zone : Zone}

theorem IsValid.seconds_range (h : zone.IsValid) :
    -86400 < zone.seconds ∧ zone.seconds < 86400 ∧ zone.seconds % 60 = 0 := by
  cases zone with
  | zulu letter =>
    rw [seconds]
    omega
  | offset sign hours minutes =>
    obtain ⟨-, hhours, hminutes⟩ := h
    rw [seconds]
    split <;> omega

theorem IsValid.exists_chars (h : zone.IsValid) :
    ∃ c rest, zone.chars = c :: rest ∧ c.isDigit = false ∧ c ≠ '.' := by
  cases zone with
  | zulu letter =>
    refine ⟨letter, [], rfl, ?_⟩
    rcases h with rfl | rfl <;> decide
  | offset sign hours minutes =>
    refine ⟨sign, _, rfl, ?_⟩
    obtain ⟨rfl | rfl | hminus, -⟩ := h
    · decide
    · decide
    · rw [← Char.toNat_inj.1 (show ('\u2212' : Char).toNat = sign.toNat from hminus.symm)]
      decide

end Zone

structure Stamp where
  date : Calendar.Date
  separator : Char
  hour : Nat
  minute : Nat
  second : Nat
  fraction : List Char
  zone : Zone

namespace Stamp

structure IsValid (s : Stamp) : Prop where
  date : s.date.isValid = true
  year : 0 ≤ s.date.year ∧ s.date.year ≤ 9999
  separator : s.separator = 'T' ∨ s.separator = 't' ∨ s.separator = ' '
  hour : s.hour ≤ 23
  minute : s.minute ≤ 59
  second : s.second ≤ 60
  fraction : ∀ c ∈ s.fraction, c.isDigit = true
  zone : s.zone.IsValid

instance : DecidablePred IsValid := fun s =>
  decidable_of_iff (s.date.isValid = true ∧ (0 ≤ s.date.year ∧ s.date.year ≤ 9999) ∧
      (s.separator = 'T' ∨ s.separator = 't' ∨ s.separator = ' ') ∧ s.hour ≤ 23 ∧ s.minute ≤ 59 ∧
      s.second ≤ 60 ∧ s.fraction.all Char.isDigit = true ∧ s.zone.IsValid)
    ⟨fun ⟨h₁, h₂, h₃, h₄, h₅, h₆, h₇, h₈⟩ => ⟨h₁, h₂, h₃, h₄, h₅, h₆, List.all_eq_true.1 h₇, h₈⟩,
      fun h => ⟨h.date, h.year, h.separator, h.hour, h.minute, h.second,
        List.all_eq_true.2 h.fraction, h.zone⟩⟩

def pointed : List Char → List Char
  | [] => []
  | c :: cs => '.' :: c :: cs

def chars (s : Stamp) : List Char :=
  fixed 4 s.date.year.toNat ++ '-' :: (fixed 2 s.date.month ++ '-' :: (fixed 2 s.date.day ++
    s.separator :: (fixed 2 s.hour ++ ':' :: (fixed 2 s.minute ++ ':' :: (fixed 2 s.second ++
      (pointed s.fraction ++ s.zone.chars))))))

def text (s : Stamp) : String := String.ofList s.chars

/-- The seconds of universal time since 1970.  The second 60 has the number of the
second before it. -/
def seconds (s : Stamp) : Int :=
  ((s.date.dayCount : Int) - Calendar.epoch.dayCount) * 86400 +
    (s.hour * 3600 + s.minute * 60 + min s.second 59 : Nat) - s.zone.seconds

def nanosOf (fraction : List Char) : Nat :=
  Nat.ofDigitChars 10 fraction 0 * 10 ^ 9 / 10 ^ fraction.length

/-- The nanoseconds in the second.  Those of a leap second follow on the thousand
million of the second before it. -/
def nanos (s : Stamp) : Nat := nanosOf s.fraction + if s.second = 60 then 10 ^ 9 else 0

end Stamp

namespace Instant

/-! ## Digits -/

private theorem range_of_isDigit {c : Char} (hc : c.isDigit = true) :
    48 ≤ c.toNat ∧ c.toNat ≤ 57 := by
  simpa [Char.isDigit, UInt32.le_iff_toNat_le] using hc

private theorem digitChar_toNat_sub {c : Char} (hc : c.isDigit = true) :
    Nat.digitChar (c.toNat - 48) = c := by
  have hrange := range_of_isDigit hc
  apply Char.toNat_inj.1
  rw [Nat.toNat_digitChar_of_lt_ten (by omega)]
  omega

private theorem ofDigitChars_lt {ds : List Char} (hds : ∀ c ∈ ds, c.isDigit = true) :
    Nat.ofDigitChars 10 ds 0 < 10 ^ ds.length := by
  induction ds using List.reverseRecOn with
  | nil => simp
  | append_singleton ds c ih =>
    have hc : c.isDigit = true := hds c (by simp)
    have hrange := range_of_isDigit hc
    have hinit := ih fun d hd => hds d (List.mem_append_left _ hd)
    rw [Nat.ofDigitChars_append, Nat.ofDigitChars_cons, Nat.ofDigitChars_nil, List.length_append,
      List.length_singleton, Nat.pow_succ]
    change 10 * _ + (c.toNat - 48) < _
    omega

theorem fixed_ofDigitChars {ds : List Char} (hds : ∀ c ∈ ds, c.isDigit = true) :
    fixed ds.length (Nat.ofDigitChars 10 ds 0) = ds := by
  induction ds using List.reverseRecOn with
  | nil => rfl
  | append_singleton ds c ih =>
    have hc : c.isDigit = true := hds c (by simp)
    have hrange := range_of_isDigit hc
    have hvalue : Nat.ofDigitChars 10 (ds ++ [c]) 0 =
        10 * Nat.ofDigitChars 10 ds 0 + (c.toNat - 48) := by
      rw [Nat.ofDigitChars_append, Nat.ofDigitChars_cons, Nat.ofDigitChars_nil]
      rfl
    have hinit : (10 * Nat.ofDigitChars 10 ds 0 + (c.toNat - 48)) / 10 =
        Nat.ofDigitChars 10 ds 0 := by omega
    have hlast : (10 * Nat.ofDigitChars 10 ds 0 + (c.toNat - 48)) % 10 = c.toNat - 48 := by omega
    rw [hvalue, List.length_append, List.length_singleton, fixed, hinit, hlast,
      ih fun d hd => hds d (List.mem_append_left _ hd), digitChar_toNat_sub hc]

private theorem exists_of_digits {width value n : Nat} {cs rest : List Char}
    (h : digits value width cs = some (n, rest)) :
    ∃ ds : List Char, cs = ds ++ rest ∧ ds.length = width ∧ (∀ c ∈ ds, c.isDigit = true) ∧
      n = Nat.ofDigitChars 10 ds value := by
  induction width generalizing value cs with
  | zero =>
    rw [digits, Option.some.injEq, Prod.mk.injEq] at h
    exact ⟨[], h.2, rfl, by simp, h.1.symm⟩
  | succ width ih =>
    cases cs with
    | nil => cases h
    | cons c cs =>
      rw [digits] at h
      by_cases hc : c.isDigit = true
      · rw [if_pos hc] at h
        obtain ⟨ds, rfl, rfl, hds, rfl⟩ := ih h
        refine ⟨c :: ds, rfl, rfl, List.forall_mem_cons.2 ⟨hc, hds⟩, ?_⟩
        rw [Nat.ofDigitChars_cons, Nat.mul_comm]
        rfl
      · rw [if_neg hc] at h
        cases h

theorem digits_eq_some_iff {width n : Nat} {cs rest : List Char} :
    digits 0 width cs = some (n, rest) ↔ n < 10 ^ width ∧ cs = fixed width n ++ rest := by
  constructor
  · intro h
    obtain ⟨ds, rfl, rfl, hds, rfl⟩ := exists_of_digits h
    exact ⟨ofDigitChars_lt hds, by rw [fixed_ofDigitChars hds]⟩
  · rintro ⟨hn, rfl⟩
    exact digits_fixed hn rest

theorem readYear_standard_eq_some_iff {year : Int} {cs rest : List Char} :
    readYear .standard cs = some (year, rest) ↔
      (0 ≤ year ∧ year ≤ 9999) ∧ cs = fixed 4 year.toNat ++ rest := by
  rw [readYear, Option.map_eq_some_iff]
  · constructor
    · rintro ⟨⟨n, left⟩, hdigits, heq⟩
      obtain ⟨rfl, rfl⟩ := Prod.mk.injEq .. ▸ heq
      obtain ⟨hn, rfl⟩ := digits_eq_some_iff.1 hdigits
      exact ⟨by omega, by rw [Int.toNat_natCast]⟩
    · rintro ⟨hyear, rfl⟩
      refine ⟨(year.toNat, rest), digits_eq_some_iff.2 ⟨by omega, rfl⟩, ?_⟩
      rw [Prod.mk.injEq]
      exact ⟨by omega, rfl⟩
  · simp
  · simp

theorem expect_eq_some_iff {accept : Char → Bool} {cs rest : List Char} :
    expect accept cs = some rest ↔ ∃ c, accept c = true ∧ cs = c :: rest := by
  cases cs with
  | nil => simp [expect]
  | cons c cs =>
    rw [expect]
    by_cases hc : accept c = true
    · simp [hc]
    · simp [hc]

theorem expect_mark_eq_some_iff {mark : Char} {cs rest : List Char} :
    expect (· = mark) cs = some rest ↔ cs = mark :: rest := by
  simp [expect_eq_some_iff]

/-! ## Fractions -/

/-- The first nine digits of a fraction tell its whole nanoseconds. -/
theorem nanosOf_eq {ds : List Char} (hds : ∀ c ∈ ds, c.isDigit = true) :
    Nat.ofDigitChars 10 (ds.take 9) 0 * Nat.pow 10 (9 - (ds.take 9).length) = Stamp.nanosOf ds := by
  rw [Stamp.nanosOf]
  by_cases hlength : ds.length ≤ 9
  · have hpow : 10 ^ 9 = 10 ^ (9 - ds.length) * 10 ^ ds.length := by
      rw [← Nat.pow_add, Nat.sub_add_cancel hlength]
    rw [List.take_of_length_le hlength, hpow, ← Nat.mul_assoc,
      Nat.mul_div_cancel _ (Nat.pow_pos (by decide))]
    rfl
  · -- The digits behind the ninth are less than one of its units.
    have hkept : (ds.take 9).length = 9 := by
      rw [List.length_take]
      omega
    have hdropped : Nat.ofDigitChars 10 (ds.drop 9) 0 < 10 ^ (ds.drop 9).length :=
      ofDigitChars_lt fun c hc => hds c (List.mem_of_mem_drop hc)
    have hsplit : Nat.ofDigitChars 10 ds 0 = 10 ^ (ds.drop 9).length *
        Nat.ofDigitChars 10 (ds.take 9) 0 + Nat.ofDigitChars 10 (ds.drop 9) 0 := by
      rw [← Nat.ofDigitChars_eq_ofDigitChars_zero, ← Nat.ofDigitChars_append,
        List.take_append_drop]
    have hlong : ds.length = (ds.drop 9).length + 9 := by
      rw [List.length_drop]
      omega
    rw [hkept, hsplit, hlong, Nat.pow_add, Nat.mul_div_mul_right _ _ (by decide),
      Nat.mul_add_div (Nat.pow_pos (by decide)), Nat.div_eq_of_lt hdropped]
    exact Nat.mul_one _

theorem exists_of_readFraction {n : Nat} {cs rest : List Char}
    (h : readFraction cs = some (n, rest)) :
    ∃ ds : List Char, (∀ c ∈ ds, c.isDigit = true) ∧ Stamp.nanosOf ds = n ∧
      cs = Stamp.pointed ds ++ rest := by
  unfold readFraction at h
  split at h
  · rename_i cs
    have hdigits : ∀ c ∈ cs.takeWhile Char.isDigit, c.isDigit = true :=
      fun c hc => List.mem_takeWhile_imp hc
    have hsplit := List.takeWhile_append_dropWhile (p := Char.isDigit) (l := cs)
    cases hrun : cs.takeWhile Char.isDigit with
    | nil =>
      rw [hrun] at h
      cases h
    | cons c ds =>
      rw [hrun] at h hdigits hsplit
      obtain ⟨rfl, rfl⟩ := Prod.mk.injEq .. ▸ Option.some.injEq .. ▸ h
      exact ⟨c :: ds, hdigits, (nanosOf_eq hdigits).symm, congrArg _ hsplit.symm⟩
  · obtain ⟨rfl, rfl⟩ := Prod.mk.injEq .. ▸ Option.some.injEq .. ▸ h
    exact ⟨[], by simp, rfl, rfl⟩

/-- A fraction ends where neither a digit nor a point stands. -/
theorem readFraction_pointed {ds : List Char} (hds : ∀ c ∈ ds, c.isDigit = true) {c : Char}
    (hc : c.isDigit = false) (hpoint : c ≠ '.') (rest : List Char) :
    readFraction (Stamp.pointed ds ++ c :: rest) = some (Stamp.nanosOf ds, c :: rest) := by
  cases ds with
  | nil =>
    rw [Stamp.pointed, List.nil_append, readFraction]
    · rfl
    · rintro rest ⟨⟩
      exact hpoint rfl
  | cons d ds =>
    rw [Stamp.pointed, List.cons_append, readFraction, takeWhile_isDigit_append _ hds hc,
      dropWhile_isDigit_append _ hds hc, ← nanosOf_eq hds]
    rfl

/-! ## Offsets -/

theorem exists_of_readOffset {offset : Int} {cs rest : List Char}
    (h : readOffset cs = some (offset, rest)) :
    ∃ zone : Zone, zone.IsValid ∧ zone.seconds = offset ∧ cs = zone.chars ++ rest := by
  cases cs with
  | nil => cases h
  | cons c cs =>
    rw [readOffset] at h
    by_cases hzulu : c = 'Z' ∨ c = 'z'
    · rw [if_pos hzulu] at h
      obtain ⟨rfl, rfl⟩ := Prod.mk.injEq .. ▸ Option.some.injEq .. ▸ h
      exact ⟨.zulu c, hzulu, rfl, rfl⟩
    · rw [if_neg hzulu] at h
      by_cases hsign : c = '+' ∨ c = '-' ∨ c.toNat = 0x2212
      · rw [if_pos hsign] at h
        simp only [Option.bind_eq_bind, Option.bind_eq_some_iff, Prod.exists, digits_eq_some_iff,
          expect_eq_some_iff, decide_eq_true_eq, Option.ite_none_right_eq_some, Option.some.injEq,
          Prod.mk.injEq] at h
        obtain ⟨hours, _, ⟨-, rfl⟩, _, ⟨_, rfl, rfl⟩, minutes, _, ⟨-, rfl⟩, hrange, rfl, rfl⟩ := h
        refine ⟨.offset c hours minutes, ⟨hsign, hrange⟩, rfl, ?_⟩
        simp only [Zone.chars, List.cons_append, List.append_assoc]
      · rw [if_neg hsign] at h
        cases h

theorem readOffset_chars {zone : Zone} (h : zone.IsValid) :
    readOffset zone.chars = some (zone.seconds, []) := by
  cases zone with
  | zulu letter =>
    exact if_pos h
  | offset sign hours minutes =>
    obtain ⟨hsign, hrange⟩ := h
    have hzulu : ¬ (sign = 'Z' ∨ sign = 'z') := by
      rintro (rfl | rfl)
      · exact absurd hsign (by decide)
      · exact absurd hsign (by decide)
    have hminutes : digits 0 2 (fixed 2 minutes) = some (minutes, []) :=
      digits_eq_some_iff.2 ⟨by omega, (List.append_nil _).symm⟩
    rw [Zone.chars, readOffset, if_neg hzulu, if_pos hsign, digits_fixed (by omega)]
    change (digits 0 2 (fixed 2 minutes)).bind _ = _
    rw [hminutes]
    exact if_pos hrange

end Instant

namespace Stamp

variable {s : Stamp}

private theorem nanosOf_lt {ds : List Char} (hds : ∀ c ∈ ds, c.isDigit = true) :
    nanosOf ds < 10 ^ 9 := by
  rw [nanosOf, Nat.div_lt_iff_lt_mul (Nat.pow_pos (by decide)), Nat.mul_comm]
  exact Nat.mul_lt_mul_of_pos_left (Instant.ofDigitChars_lt hds) (by decide)

theorem seconds_eq (h : s.IsValid) :
    s.seconds = s.date.toDays * 86400 +
      (s.hour * 3600 + s.minute * 60 + min s.second 59 : Nat) - s.zone.seconds := by
  rw [Calendar.toDays_eq_dayCount h.date h.year.1, seconds]

theorem assemble_eq (h : s.IsValid) :
    Instant.assemble s.date s.hour s.minute s.second (nanosOf s.fraction) s.zone.seconds =
      Instant.ofSeconds? s.seconds s.nanos := by
  have hsecond := h.second
  have hvalid : (s.date.isValid && decide (s.hour ≤ 23) && decide (s.minute ≤ 59) &&
      decide (s.second ≤ 60)) = true := by
    simp [h.date, h.hour, h.minute, h.second]
  have hleap : s.second - s.second / 60 = min s.second 59 := by omega
  have hnanos : nanosOf s.fraction + s.second / 60 * 1000000000 = s.nanos := by
    rw [nanos]
    by_cases hlast : s.second = 60
    · rw [if_pos hlast, hlast]
      rfl
    · rw [if_neg hlast, Nat.div_eq_of_lt (by omega)]
  rw [Instant.assemble, if_pos hvalid]
  dsimp only
  rw [hleap, hnanos, seconds_eq h]

theorem exists_instant (h : s.IsValid) :
    ∃ t : Instant, t.seconds = s.seconds ∧ t.nanos = s.nanos := by
  obtain ⟨hdays, hyears⟩ := Calendar.toDays_range h.date h.year
  obtain ⟨hbehind, hahead, hminutes⟩ := h.zone.seconds_range
  have hhour := h.hour
  have hminute := h.minute
  have hnanos := nanosOf_lt h.fraction
  have hseconds := seconds_eq h
  have hfraction : s.nanos < 2000000000 ∧ (1000000000 ≤ s.nanos → s.second = 60) := by
    rw [nanos]
    by_cases hlast : s.second = 60
    · rw [if_pos hlast]
      omega
    · rw [if_neg hlast]
      omega
  exact ⟨⟨s.seconds, s.nanos, by omega, by omega, hfraction.1, fun hleap => by
    have hlast := hfraction.2 hleap
    omega⟩, rfl, rfl⟩

theorem read_chars (h : s.IsValid) :
    Instant.read .standard s.chars = Instant.ofSeconds? s.seconds s.nanos := by
  obtain ⟨⟨⟨hfirst, hlast⟩, hday⟩, hdays⟩ : ((1 ≤ s.date.month ∧ s.date.month ≤ 12) ∧
      1 ≤ s.date.day) ∧ s.date.day ≤ Calendar.daysInMonth s.date.year s.date.month := by
    simpa [Calendar.Date.isValid] using h.date
  have hmonth := Calendar.daysInMonth_le s.date.year s.date.month
  have hyear := h.year
  have hhour := h.hour
  have hminute := h.minute
  have hsecond := h.second
  have hfraction : Instant.readFraction (pointed s.fraction ++ s.zone.chars) =
      some (nanosOf s.fraction, s.zone.chars) := by
    obtain ⟨c, rest, hchars, hdigit, hpoint⟩ := h.zone.exists_chars
    rw [hchars]
    exact Instant.readFraction_pointed h.fraction hdigit hpoint rest
  rw [chars, ← assemble_eq h]
  exact Instant.read_of_parts (Instant.readYear_standard_eq_some_iff.2 ⟨h.year, rfl⟩)
    (Instant.digits_fixed (by omega) _) (Instant.digits_fixed (by omega) _) h.separator
    (Instant.digits_fixed (by omega) _) (Instant.digits_fixed (by omega) _)
    (Instant.digits_fixed (by omega) _) hfraction (Instant.readOffset_chars h.zone)

theorem exists_of_read {cs : List Char} {t : Instant} (h : Instant.read .standard cs = some t) :
    ∃ s : Stamp, s.IsValid ∧ s.chars = cs := by
  -- First the parts are read one after the other, then each tells what it was read from.
  obtain ⟨⟨year, _⟩, hyear, h⟩ := Option.bind_eq_some_iff.1 h
  obtain ⟨_, hdash, h⟩ := Option.bind_eq_some_iff.1 h
  obtain ⟨⟨month, _⟩, hmonth, h⟩ := Option.bind_eq_some_iff.1 h
  obtain ⟨_, hnextdash, h⟩ := Option.bind_eq_some_iff.1 h
  obtain ⟨⟨day, _⟩, hday, h⟩ := Option.bind_eq_some_iff.1 h
  obtain ⟨_, htime, h⟩ := Option.bind_eq_some_iff.1 h
  obtain ⟨⟨hour, _⟩, hhour, h⟩ := Option.bind_eq_some_iff.1 h
  obtain ⟨_, hcolon, h⟩ := Option.bind_eq_some_iff.1 h
  obtain ⟨⟨minute, _⟩, hminute, h⟩ := Option.bind_eq_some_iff.1 h
  obtain ⟨_, hnextcolon, h⟩ := Option.bind_eq_some_iff.1 h
  obtain ⟨⟨second, _⟩, hsecond, h⟩ := Option.bind_eq_some_iff.1 h
  obtain ⟨⟨nanos, _⟩, hfraction, h⟩ := Option.bind_eq_some_iff.1 h
  obtain ⟨⟨offset, _⟩, hoffset, h⟩ := Option.bind_eq_some_iff.1 h
  obtain ⟨hend, hassemble⟩ := Option.ite_none_right_eq_some.1 h
  obtain rfl := List.isEmpty_iff.1 hend
  obtain ⟨hrange, rfl⟩ := Instant.readYear_standard_eq_some_iff.1 hyear
  obtain rfl := Instant.expect_mark_eq_some_iff.1 hdash
  obtain ⟨-, rfl⟩ := Instant.digits_eq_some_iff.1 hmonth
  obtain rfl := Instant.expect_mark_eq_some_iff.1 hnextdash
  obtain ⟨-, rfl⟩ := Instant.digits_eq_some_iff.1 hday
  obtain ⟨separator, hseparator, rfl⟩ := Instant.expect_eq_some_iff.1 htime
  obtain ⟨-, rfl⟩ := Instant.digits_eq_some_iff.1 hhour
  obtain rfl := Instant.expect_mark_eq_some_iff.1 hcolon
  obtain ⟨-, rfl⟩ := Instant.digits_eq_some_iff.1 hminute
  obtain rfl := Instant.expect_mark_eq_some_iff.1 hnextcolon
  obtain ⟨-, rfl⟩ := Instant.digits_eq_some_iff.1 hsecond
  obtain ⟨fraction, hdigits, -, rfl⟩ := Instant.exists_of_readFraction hfraction
  obtain ⟨zone, hzone, -, rfl⟩ := Instant.exists_of_readOffset hoffset
  rw [Instant.assemble, Option.ite_none_right_eq_some] at hassemble
  simp only [Bool.and_eq_true, decide_eq_true_eq] at hassemble
  obtain ⟨⟨⟨⟨hdate, hhour⟩, hminute⟩, hsecond⟩, -⟩ := hassemble
  refine ⟨⟨⟨year, month, day⟩, separator, hour, minute, second, fraction, zone⟩,
    ⟨hdate, hrange, ?_, hhour, hminute, hsecond, hdigits, hzone⟩, ?_⟩
  · simpa [or_assoc] using hseparator
  · rw [chars, List.append_nil]

/-- The texts that are read are those of time stamps, as the moments of these. -/
theorem parse_standard_eq_some_iff {text : String} {t : Instant} :
    Instant.parse .standard text = some t ↔ ∃ s : Stamp, s.IsValid ∧ s.text = text ∧
      t.seconds = s.seconds ∧ t.nanos = s.nanos := by
  rw [Instant.parse]
  constructor
  · intro h
    obtain ⟨s, hs, hchars⟩ := exists_of_read h
    rw [← hchars, read_chars hs, Instant.ofSeconds?_eq_some_iff] at h
    exact ⟨s, hs, by rw [Stamp.text, hchars, String.ofList_toList], h⟩
  · rintro ⟨s, hs, rfl, h⟩
    rw [Stamp.text, String.toList_ofList, read_chars hs, Instant.ofSeconds?_eq_some_iff]
    exact h

end Stamp

end MerchantApi
