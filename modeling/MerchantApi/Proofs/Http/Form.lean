import MerchantApi.Http.Form
import MerchantApi.Proofs.Text.Cut
import MerchantApi.Proofs.Text.Utf8
/-!
# Reading form-encoded pairs

What is written byte by byte is read byte by byte, and no byte is written as a
separator.  So pairs are read as they were written, in their order, whatever
their names and values are.
-/

namespace MerchantApi.Http.Form

/-! ## Bytes -/

private theorem hexValue?_hexUpper : ∀ n < 16, Text.hexValue? (Text.hexUpper n) = some n := by
  decide

private theorem decodeBytes_percent (b : UInt8) (rest : List Char) :
    decodeBytes (percent b ++ rest) = b :: decodeBytes rest := by
  have hhigh := hexValue?_hexUpper (b.toNat / 16) (by have := b.toNat_lt; omega)
  have hlow := hexValue?_hexUpper (b.toNat % 16) (Nat.mod_lt _ (by decide))
  have hbyte : UInt8.ofNat (b.toNat / 16 * 16 + b.toNat % 16) = b := by
    rw [Nat.div_add_mod', UInt8.ofNat_toNat]
  simp only [percent, List.cons_append, List.nil_append, decodeBytes, hhigh, hlow, hbyte]

private theorem toNat_lt_of_isPlain {b : UInt8} (h : isPlain b = true) : b.toNat < 0x80 := by
  have hall : ∀ n < 256, isPlain (UInt8.ofNat n) = true → n < 0x80 := by decide +kernel
  exact hall b.toNat b.toNat_lt (by rwa [UInt8.ofNat_toNat])

private theorem ne_of_isPlain {b : UInt8} (h : isPlain b = true) {c : Char}
    (hc : c ∈ ['+', '%', '&', '=']) : Char.ofNat b.toNat ≠ c := by
  have hmarks : (['+', '%', '&', '='].all fun c =>
      !(c.isAlphanum || c = '*' || c = '-' || c = '.' || c = '_')) = true := by decide
  rintro rfl
  have hnot := List.all_eq_true.1 hmarks _ hc
  rw [isPlain] at h
  simp only [h, Bool.not_true, Bool.false_eq_true] at hnot

private theorem decodeBytes_plain {b : UInt8} (h : isPlain b = true) (rest : List Char) :
    decodeBytes (Char.ofNat b.toNat :: rest) = b :: decodeBytes rest := by
  have hascii := toNat_lt_of_isPlain h
  have hvalid : b.toNat.isValidChar := Or.inl (by omega)
  have hnumber : (Char.ofNat b.toNat).toNat = b.toNat := by
    rw [Char.ofNat, dif_pos hvalid]
    rfl
  have hbytes : (String.singleton (Char.ofNat b.toNat)).toUTF8.data.toList = [b] := by
    rw [Text.toList_toUTF8, String.toList_singleton, List.flatMap_singleton,
      Text.utf8EncodeChar_ascii (by rwa [hnumber]), hnumber, UInt8.ofNat_toNat]
  rw [decodeBytes, hbytes, List.singleton_append]
  · exact ne_of_isPlain h (by decide)
  · exact fun _ _ _ hpercent => absurd hpercent (ne_of_isPlain h (by decide))

theorem decodeBytes_encodeByte (b : UInt8) (rest : List Char) :
    decodeBytes (encodeByte b ++ rest) = b :: decodeBytes rest := by
  unfold encodeByte
  split
  · rename_i hplain
    exact decodeBytes_plain hplain rest
  split
  · rename_i hspace
    subst hspace
    rfl
  · exact decodeBytes_percent b rest

theorem decodeBytes_encodeText (s : String) :
    decodeBytes (encodeText s) = s.toUTF8.data.toList := by
  have hbytes : ∀ bytes : List UInt8, decodeBytes (bytes.flatMap encodeByte) = bytes := by
    intro bytes
    induction bytes with
    | nil => rfl
    | cons b bytes ih => rw [List.flatMap_cons, decodeBytes_encodeByte, ih]
  exact hbytes _

theorem decodeText_encodeText (s : String) : decodeText (encodeText s) = s := by
  rw [decodeText, decodeBytes_encodeText, Array.toArray_toList]
  exact Text.lossy_toUTF8 s

/-! ## Separators -/

theorem ne_of_mem_percent {b : UInt8} {c : Char} (h : c ∈ percent b) :
    c ≠ '&' ∧ c ≠ '=' ∧ c ≠ '?' := by
  have hdigits : ∀ n < 16, Text.hexUpper n ≠ '&' ∧ Text.hexUpper n ≠ '=' ∧
      Text.hexUpper n ≠ '?' := by decide
  simp only [percent, List.mem_cons, List.not_mem_nil, or_false] at h
  obtain rfl | rfl | rfl := h
  · decide
  · exact hdigits _ (by have := b.toNat_lt; omega)
  · exact hdigits _ (Nat.mod_lt _ (by decide))

theorem ne_of_mem_encodeText {s : String} {c : Char} (h : c ∈ encodeText s) :
    c ≠ '&' ∧ c ≠ '=' := by
  obtain ⟨b, -, hb⟩ := List.mem_flatMap.1 h
  unfold encodeByte at hb
  split at hb
  · rename_i hplain
    obtain rfl := List.mem_singleton.1 hb
    exact ⟨ne_of_isPlain hplain (by decide), ne_of_isPlain hplain (by decide)⟩
  split at hb
  · obtain rfl := List.mem_singleton.1 hb
    decide
  · obtain ⟨hand, hequals, -⟩ := ne_of_mem_percent hb
    exact ⟨hand, hequals⟩

private theorem not_mem_encodePair (pair : String × String) : '&' ∉ encodePair pair := by
  rw [encodePair, List.mem_append, List.mem_cons]
  rintro (hname | heq | hvalue)
  · exact (ne_of_mem_encodeText hname).1 rfl
  · cases heq
  · exact (ne_of_mem_encodeText hvalue).1 rfl

private theorem encodePair_ne_nil (pair : String × String) : encodePair pair ≠ [] :=
  List.append_ne_nil_of_right_ne_nil _ (List.cons_ne_nil _ _)

theorem decodePair_encodePair (pair : String × String) : decodePair (encodePair pair) = pair := by
  have hname : '=' ∉ encodeText pair.1 := fun hmem => (ne_of_mem_encodeText hmem).2 rfl
  rw [decodePair, encodePair, Text.takeWhile_ne_append_cons hname,
    Text.dropWhile_ne_append_cons hname, List.drop_one, List.tail_cons, decodeText_encodeText,
    decodeText_encodeText]

private theorem encode_eq_intercalate (pairs : List (String × String)) :
    encode pairs = List.intercalate ['&'] (pairs.map encodePair) := by
  induction pairs with
  | nil => rfl
  | cons pair rest ih =>
    cases rest with
    | nil => exact List.intercalate_singleton.symm
    | cons next rest =>
      rw [encode, ih, List.map_cons, List.map_cons, List.map_cons, List.intercalate_cons_cons,
        List.append_assoc, List.singleton_append]
      exact List.cons_ne_nil next rest

theorem decode_encode (pairs : List (String × String)) :
    decode (String.ofList (encode pairs)) = pairs := by
  obtain rfl | hne := eq_or_ne pairs []
  · rfl
  · have hsplit : (encode pairs).splitOn '&' = pairs.map encodePair := by
      rw [encode_eq_intercalate, List.splitOn_intercalate]
      · exact List.forall_mem_map.2 fun pair _ => not_mem_encodePair pair
      · simpa using hne
    have hkept : (pairs.map encodePair).filter (· ≠ []) = pairs.map encodePair := by
      rw [List.filter_eq_self]
      exact List.forall_mem_map.2 fun pair _ => decide_eq_true (encodePair_ne_nil pair)
    have hread : decodePair ∘ encodePair = id := funext decodePair_encodePair
    rw [decode, String.toList_ofList, hsplit, hkept, List.map_map, hread, List.map_id]

/-- A separator keeps what is before it apart from what is behind it. -/
theorem decode_append (before after : List Char) :
    decode (String.ofList (before ++ '&' :: after)) =
      decode (String.ofList before) ++ decode (String.ofList after) := by
  simp only [decode, String.toList_ofList, List.splitOn_append_cons_self, List.filter_append,
    List.map_append]

end MerchantApi.Http.Form
