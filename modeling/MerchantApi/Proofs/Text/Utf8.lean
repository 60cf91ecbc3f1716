import MerchantApi.Text.Utf8
import MerchantApi.Proofs.Text.Cut
import Mathlib.Data.List.Infix
/-!
# Bytes of texts

The bytes of a text are read leniently as the text itself: every character is
finished by the bytes that follow its first one, so nothing has to be replaced.  A mark
of ASCII stands among the bytes only where it stands in the text.
-/

namespace MerchantApi.Text

private theorem toList_loop (bytes : ByteArray) (i : Nat) (before : List UInt8) :
    ByteArray.toList.loop bytes i before = before.reverse ++ bytes.data.toList.drop i := by
  induction i, before using ByteArray.toList.loop.induct bytes with
  | case1 i before hi ih =>
    have hlt : i < bytes.data.toList.length := by simpa using hi
    have hbyte : bytes.get! i = bytes.data.toList[i] := by
      rw [ByteArray.get!, Array.getElem_toList]
      exact getElem!_pos bytes.data i hi
    rw [ByteArray.toList.loop, if_pos hi, ih, List.drop_eq_getElem_cons hlt, hbyte,
      List.reverse_cons, List.append_assoc, List.singleton_append]
  | case2 i before hi =>
    have hend : bytes.data.toList.length ≤ i := by simpa using hi
    rw [ByteArray.toList.loop, if_neg hi, List.drop_eq_nil_of_le hend, List.append_nil]

theorem toList_bytes (bytes : ByteArray) : bytes.toList = bytes.data.toList := by
  rw [ByteArray.toList, toList_loop, List.reverse_nil, List.nil_append, List.drop_zero]

theorem toList_toUTF8 (s : String) :
    s.toUTF8.data.toList = s.toList.flatMap String.utf8EncodeChar := by
  rw [String.toUTF8_eq_toByteArray, ← String.utf8Encode_toList, List.utf8Encode,
    List.data_toByteArray]

/-! ## Steps of the reader -/

section Steps

variable {byte : UInt8} {missing low high value : Nat} (bytes : List UInt8)

theorem lossyFrom_ascii (h : byte.toNat < 0x80) :
    lossyFrom .nothing (byte :: bytes) = Char.ofNat byte.toNat :: lossyFrom .nothing bytes := by
  rw [lossyFrom]
  simp only [if_pos h, List.nil_append]

theorem lossyFrom_lead (h : 0x80 ≤ byte.toNat)
    (hlead : lead? byte.toNat = some (missing, low, high, value)) :
    lossyFrom .nothing (byte :: bytes) =
      lossyFrom (.character missing low high value) bytes := by
  rw [lossyFrom]
  simp only [if_neg (Nat.not_lt_of_le h), hlead, List.nil_append]

theorem lossyFrom_next (hlow : low ≤ byte.toNat) (hhigh : byte.toNat ≤ high) :
    lossyFrom (.character (missing + 2) low high value) (byte :: bytes) =
      lossyFrom (.character (missing + 1) 0x80 0xBF (value * 64 + (byte.toNat - 0x80))) bytes := by
  rw [lossyFrom]
  simp only [if_pos (And.intro hlow hhigh)]
  rw [if_neg (by omega)]
  rfl

theorem lossyFrom_last (hlow : low ≤ byte.toNat) (hhigh : byte.toNat ≤ high) :
    lossyFrom (.character 1 low high value) (byte :: bytes) =
      Char.ofNat (value * 64 + (byte.toNat - 0x80)) :: lossyFrom .nothing bytes := by
  rw [lossyFrom]
  simp only [if_pos (And.intro hlow hhigh)]
  rfl

end Steps

/-! ## First bytes -/

section First

variable {b : Nat}

private theorem lead?_two (hlow : 0xC2 ≤ b) (hhigh : b ≤ 0xDF) :
    lead? b = some (1, 0x80, 0xBF, b - 0xC0) := by
  rw [lead?, if_pos ⟨hlow, hhigh⟩]

private theorem lead?_three (hlow : 0xE0 ≤ b) (hhigh : b ≤ 0xEF) :
    lead? b = some (2, if b = 0xE0 then 0xA0 else 0x80, if b = 0xED then 0x9F else 0xBF,
      b - 0xE0) := by
  by_cases hfirst : b = 0xE0
  · subst hfirst
    rfl
  by_cases hsurrogates : b = 0xED
  · subst hsurrogates
    rfl
  rw [lead?, if_neg (by omega), if_neg hfirst, if_neg hsurrogates, if_pos (by omega),
    if_neg hfirst, if_neg hsurrogates]

private theorem lead?_four (hlow : 0xF0 ≤ b) (hhigh : b ≤ 0xF4) :
    lead? b = some (3, if b = 0xF0 then 0x90 else 0x80, if b = 0xF4 then 0x8F else 0xBF,
      b - 0xF0) := by
  obtain rfl | rfl | rfl | rfl | rfl : b = 0xF0 ∨ b = 0xF1 ∨ b = 0xF2 ∨ b = 0xF3 ∨ b = 0xF4 := by
    omega
  all_goals rfl

end First

/-! ## Characters -/

theorem toNat_byte {n : Nat} (h : n < 256) : (UInt8.ofNat n).toNat = n := by
  rw [UInt8.toNat_ofNat', Nat.mod_eq_of_lt h]

section Characters

variable {n : Nat} (bytes : List UInt8)

private theorem lossyFrom_twoBytes (hlow : 0x80 ≤ n) (hhigh : n < 0x800) :
    lossyFrom .nothing (UInt8.ofNat (n / 64 + 0xC0) :: UInt8.ofNat (n % 64 + 0x80) :: bytes) =
      Char.ofNat n :: lossyFrom .nothing bytes := by
  have hfirst := toNat_byte (n := n / 64 + 0xC0) (by omega)
  have hsecond := toNat_byte (n := n % 64 + 0x80) (by omega)
  have hlead := lead?_two (b := n / 64 + 0xC0) (by omega) (by omega)
  rw [← hfirst] at hlead
  have hvalue : (n / 64 + 0xC0 - 0xC0) * 64 + (n % 64 + 0x80 - 0x80) = n := by omega
  rw [lossyFrom_lead _ (by omega) hlead, lossyFrom_last _ (by omega) (by omega), hfirst, hsecond,
    hvalue]

private theorem lossyFrom_threeBytes (hlow : 0x800 ≤ n) (hhigh : n < 0x10000)
    (hvalid : n < 0xD800 ∨ 0xDFFF < n) :
    lossyFrom .nothing (UInt8.ofNat (n / 4096 + 0xE0) :: UInt8.ofNat (n / 64 % 64 + 0x80) ::
        UInt8.ofNat (n % 64 + 0x80) :: bytes) =
      Char.ofNat n :: lossyFrom .nothing bytes := by
  have hfirst := toNat_byte (n := n / 4096 + 0xE0) (by omega)
  have hsecond := toNat_byte (n := n / 64 % 64 + 0x80) (by omega)
  have hthird := toNat_byte (n := n % 64 + 0x80) (by omega)
  have hlead := lead?_three (b := n / 4096 + 0xE0) (by omega) (by omega)
  rw [← hfirst] at hlead
  have hvalue : ((n / 4096 + 0xE0 - 0xE0) * 64 + (n / 64 % 64 + 0x80 - 0x80)) * 64 +
      (n % 64 + 0x80 - 0x80) = n := by omega
  rw [lossyFrom_lead _ (by omega) hlead, lossyFrom_next _ ?_ ?_,
    lossyFrom_last _ (by omega) (by omega), hfirst, hsecond, hthird, hvalue]
  · split <;> omega
  · split <;> omega

private theorem lossyFrom_fourBytes (hlow : 0x10000 ≤ n) (hhigh : n < 0x110000) :
    lossyFrom .nothing (UInt8.ofNat (n / 262144 + 0xF0) :: UInt8.ofNat (n / 4096 % 64 + 0x80) ::
        UInt8.ofNat (n / 64 % 64 + 0x80) :: UInt8.ofNat (n % 64 + 0x80) :: bytes) =
      Char.ofNat n :: lossyFrom .nothing bytes := by
  have hfirst := toNat_byte (n := n / 262144 + 0xF0) (by omega)
  have hsecond := toNat_byte (n := n / 4096 % 64 + 0x80) (by omega)
  have hthird := toNat_byte (n := n / 64 % 64 + 0x80) (by omega)
  have hfourth := toNat_byte (n := n % 64 + 0x80) (by omega)
  have hlead := lead?_four (b := n / 262144 + 0xF0) (by omega) (by omega)
  rw [← hfirst] at hlead
  have hvalue : (((n / 262144 + 0xF0 - 0xF0) * 64 + (n / 4096 % 64 + 0x80 - 0x80)) * 64 +
      (n / 64 % 64 + 0x80 - 0x80)) * 64 + (n % 64 + 0x80 - 0x80) = n := by omega
  rw [lossyFrom_lead _ (by omega) hlead, lossyFrom_next _ ?_ ?_,
    lossyFrom_next _ (by omega) (by omega), lossyFrom_last _ (by omega) (by omega), hfirst,
    hsecond, hthird, hfourth, hvalue]
  · split <;> omega
  · split <;> omega

theorem utf8EncodeChar_eq (c : Char) :
    String.utf8EncodeChar c =
      if c.toNat ≤ 0x7F then [UInt8.ofNat c.toNat]
      else if c.toNat ≤ 0x7FF then
        [UInt8.ofNat (c.toNat / 64 % 32 + 0xC0), UInt8.ofNat (c.toNat % 64 + 0x80)]
      else if c.toNat ≤ 0xFFFF then
        [UInt8.ofNat (c.toNat / 4096 % 16 + 0xE0), UInt8.ofNat (c.toNat / 64 % 64 + 0x80),
          UInt8.ofNat (c.toNat % 64 + 0x80)]
      else
        [UInt8.ofNat (c.toNat / 262144 % 8 + 0xF0), UInt8.ofNat (c.toNat / 4096 % 64 + 0x80),
          UInt8.ofNat (c.toNat / 64 % 64 + 0x80), UInt8.ofNat (c.toNat % 64 + 0x80)] := rfl

theorem utf8EncodeChar_ascii {c : Char} (h : c.toNat < 0x80) :
    String.utf8EncodeChar c = [UInt8.ofNat c.toNat] :=
  if_pos (Nat.le_of_lt_succ h)

theorem lossyFrom_utf8EncodeChar (c : Char) :
    lossyFrom .nothing (String.utf8EncodeChar c ++ bytes) = c :: lossyFrom .nothing bytes := by
  have hvalid : c.toNat < 0xD800 ∨ 0xDFFF < c.toNat ∧ c.toNat < 0x110000 := c.valid
  rw [utf8EncodeChar_eq]
  generalize hn : c.toNat = n at hvalid ⊢
  obtain rfl : Char.ofNat n = c := hn ▸ Char.ofNat_toNat c
  split
  · rename_i hone
    have hbyte := toNat_byte (n := n) (by omega)
    rw [List.singleton_append, lossyFrom_ascii _ (by omega), hbyte]
  split
  · rw [Nat.mod_eq_of_lt (a := n / 64) (by omega)]
    exact lossyFrom_twoBytes bytes (by omega) (by omega)
  split
  · rw [Nat.mod_eq_of_lt (a := n / 4096) (by omega)]
    exact lossyFrom_threeBytes bytes (by omega) (by omega) (by omega)
  · rw [Nat.mod_eq_of_lt (a := n / 262144) (by omega)]
    exact lossyFrom_fourBytes bytes (by omega) (by omega)

end Characters

/-- The bytes of a text are read as the text. -/
theorem lossy_toUTF8 (s : String) : lossy s.toUTF8 = s := by
  have hread : ∀ cs : List Char, lossyFrom .nothing (cs.flatMap String.utf8EncodeChar) = cs := by
    intro cs
    induction cs with
    | nil => rfl
    | cons c cs ih => rw [List.flatMap_cons, lossyFrom_utf8EncodeChar, ih]
  rw [lossy, toList_bytes, toList_toUTF8, hread, String.ofList_toList]

/-! ## Marks of ASCII -/

private theorem le_toNat_of_mem_utf8EncodeChar {c : Char} (hc : 0x80 ≤ c.toNat) {b : UInt8}
    (hb : b ∈ String.utf8EncodeChar c) : 0x80 ≤ b.toNat := by
  have hvalid : c.toNat < 0xD800 ∨ 0xDFFF < c.toNat ∧ c.toNat < 0x110000 := c.valid
  rw [utf8EncodeChar_eq, if_neg (by omega)] at hb
  have hbyte : ∃ n, b = UInt8.ofNat n ∧ 0x80 ≤ n ∧ n < 256 := by
    split at hb
    · simp only [List.mem_cons, List.not_mem_nil, or_false] at hb
      rcases hb with rfl | rfl
      · exact ⟨_, rfl, by omega, by omega⟩
      · exact ⟨_, rfl, by omega, by omega⟩
    split at hb
    · simp only [List.mem_cons, List.not_mem_nil, or_false] at hb
      rcases hb with rfl | rfl | rfl
      all_goals exact ⟨_, rfl, by omega, by omega⟩
    · simp only [List.mem_cons, List.not_mem_nil, or_false] at hb
      rcases hb with rfl | rfl | rfl | rfl
      all_goals exact ⟨_, rfl, by omega, by omega⟩
  obtain ⟨n, rfl, hlow, hhigh⟩ := hbyte
  rwa [toNat_byte hhigh]

def octets (cs : List Char) : List UInt8 := cs.flatMap String.utf8EncodeChar

theorem octets_append (before after : List Char) :
    octets (before ++ after) = octets before ++ octets after := List.flatMap_append

theorem toList_toUTF8_ofList (cs : List Char) :
    (String.ofList cs).toUTF8.data.toList = octets cs := by
  rw [toList_toUTF8, String.toList_ofList, octets]

theorem ofUtf8?_toUTF8 (text : String) : ofUtf8? text.toUTF8 = some text :=
  dif_pos text.isValidUTF8

theorem ofUtf8?_octets (cs : List Char) :
    ofUtf8? ⟨(octets cs).toArray⟩ = some (String.ofList cs) := by
  rw [← toList_toUTF8_ofList, Array.toArray_toList]
  exact ofUtf8?_toUTF8 _

section Octets

variable {mark cs : List Char}

/-- A character of several bytes shares none of them with a character of one. -/
theorem not_mem_utf8EncodeChar {m c : Char} (hm : m.toNat < 0x80) (hc : ¬ c.toNat < 0x80) :
    UInt8.ofNat m.toNat ∉ String.utf8EncodeChar c := by
  intro hmem
  have hlow := le_toNat_of_mem_utf8EncodeChar (Nat.le_of_not_lt hc) hmem
  rw [toNat_byte (by omega)] at hlow
  omega

theorem octets_cons (c : Char) (cs : List Char) :
    octets (c :: cs) = String.utf8EncodeChar c ++ octets cs := List.flatMap_cons

theorem octets_cons_ascii {c : Char} (hc : c.toNat < 0x80) (cs : List Char) :
    octets (c :: cs) = UInt8.ofNat c.toNat :: octets cs := by
  rw [octets_cons, utf8EncodeChar_ascii hc, List.singleton_append]

theorem octets_ne_nil (h : cs ≠ []) : octets cs ≠ [] := by
  obtain ⟨c, cs, rfl⟩ := List.exists_cons_of_ne_nil h
  rw [octets_cons]
  exact List.append_ne_nil_of_left_ne_nil String.utf8EncodeChar_ne_nil _

theorem prefix_of_octets (hascii : ∀ c ∈ mark, c.toNat < 0x80)
    (h : octets mark <+: octets cs) :
    mark <+: cs := by
  induction mark generalizing cs with
  | nil => exact List.nil_prefix
  | cons m mark ih =>
    obtain ⟨hm, hmark⟩ := List.forall_mem_cons.1 hascii
    rw [octets_cons_ascii hm] at h
    cases cs with
    | nil => exact absurd h (by simp [octets])
    | cons c cs =>
      by_cases hc : c.toNat < 0x80
      · rw [octets_cons_ascii hc, List.cons_prefix_cons] at h
        have hsame : m.toNat = c.toNat := by
          rw [← toNat_byte (n := m.toNat) (by omega), h.1, toNat_byte (by omega)]
        exact List.cons_prefix_cons.2 ⟨Char.toNat_inj.1 hsame, ih hmark h.2⟩
      · have hnone := not_mem_utf8EncodeChar hm hc
        have hsome : String.utf8EncodeChar c ≠ [] := String.utf8EncodeChar_ne_nil
        obtain ⟨b, bytes, hbytes⟩ := List.exists_cons_of_ne_nil hsome
        rw [octets_cons, hbytes, List.cons_append, List.cons_prefix_cons] at h
        rw [hbytes, h.1] at hnone
        exact absurd List.mem_cons_self hnone

/-- A mark of ASCII stands among the bytes of a text only where it stands in the text. -/
theorem infix_of_octets (hascii : ∀ c ∈ mark, c.toNat < 0x80)
    (h : octets mark <:+: octets cs) :
    mark <:+: cs := by
  cases mark with
  | nil => exact List.nil_infix
  | cons m mark =>
    have hm : m.toNat < 0x80 := hascii m List.mem_cons_self
    induction cs with
    | nil =>
      rw [octets_cons_ascii hm] at h
      exact absurd h (by simp [octets])
    | cons c cs ih =>
      have hbehind : cs <:+: c :: cs := (List.suffix_cons c cs).isInfix
      by_cases hc : c.toNat < 0x80
      · have hsplit := h
        rw [octets_cons_ascii hc, List.infix_cons_iff] at hsplit
        rcases hsplit with hstart | hinside
        · rw [← octets_cons_ascii hc] at hstart
          exact (prefix_of_octets hascii hstart).isInfix
        · exact (ih hinside).trans hbehind
      · rw [octets_cons_ascii hm, octets_cons] at h
        rw [octets_cons_ascii hm] at ih
        exact (ih (infix_of_infix_append (not_mem_utf8EncodeChar hm hc) h)).trans hbehind

theorem not_mem_octets {c : Char} (hc : c.toNat < 0x80) (h : c ∉ cs) :
    UInt8.ofNat c.toNat ∉ octets cs := by
  intro hmem
  have hmark : octets [c] = [UInt8.ofNat c.toNat] := octets_cons_ascii hc []
  have hinside : octets [c] <:+: octets cs := hmark ▸ (List.singleton_infix_iff _ _).2 hmem
  have hascii : ∀ d ∈ [c], d.toNat < 0x80 := List.forall_mem_singleton.2 hc
  exact h ((List.singleton_infix_iff _ _).1 (infix_of_octets hascii hinside))

end Octets

end MerchantApi.Text
