import MerchantApi.MediaType
import MerchantApi.Proofs.Text.Cut
/-!
# Media types stay on one line

A media type that is declared consists of tokens, of quoted texts without control
characters and of marks between them, so that it is written without a line break.
-/

namespace MerchantApi.MediaType

variable {cs rest : List Char}

private theorem return_not_mem_takeWhile {p : Char → Bool} (h : p '\r' = false) (cs : List Char) :
    '\r' ∉ cs.takeWhile p := by
  intro hmem
  have hp := List.mem_takeWhile_imp hmem
  rw [h] at hp
  cases hp

private theorem eq_return_of_toLower {c : Char} (h : c.toLower = '\r') : c = '\r' := by
  unfold Char.toLower at h
  split at h
  · rename_i hupper
    have hval := congrArg (fun d : Char => d.val.toNat) h
    simp [UInt32.le_iff_toNat_le, UInt32.toNat_add] at hval hupper
    omega
  · exact h

private theorem return_not_mem_lower (h : '\r' ∉ cs) : '\r' ∉ lower cs := by
  intro hmem
  obtain ⟨c, hc, hlower⟩ := List.mem_map.1 hmem
  exact h (eq_return_of_toLower hlower ▸ hc)

theorem return_not_mem_token {name : List Char} (h : token? cs = some (name, rest)) :
    '\r' ∉ name := by
  simp only [token?] at h
  split at h
  · cases h
  · cases h
    exact return_not_mem_takeWhile (by decide) cs

structure Value.OneLine (v : Value) : Prop where
  text : '\r' ∉ v.text
  blanks : '\r' ∉ v.blanks

theorem value?_oneLine {v : Value} (h : value? cs = some (v, rest)) : v.OneLine := by
  unfold value? at h
  split at h
  · cases h
    exact ⟨List.not_mem_nil, List.not_mem_nil⟩
  · rename_i c after
    dsimp only at h
    split at h
    · rename_i hquotable
      split at h
      · cases h
        refine ⟨?_, return_not_mem_takeWhile (by decide) _⟩
        rw [List.mem_cons, not_or]
        refine ⟨?_, return_not_mem_takeWhile (by decide) _⟩
        rintro rfl
        cases hquotable
      · cases h
    · cases h
  · rw [Option.map_eq_some_iff] at h
    obtain ⟨⟨text, behind⟩, htoken, hv⟩ := h
    cases hv
    exact ⟨return_not_mem_token htoken, List.not_mem_nil⟩

theorem Parameter.return_not_mem_chars {p : Parameter} (hblanks : '\r' ∉ p.blanks)
    (hname : '\r' ∉ p.name) (hvalue : p.value.OneLine) : '\r' ∉ p.chars := by
  have htext : '\r' ∉ if lower p.name = charsetName then lower p.value.text else p.value.text := by
    split
    · exact return_not_mem_lower hvalue.text
    · exact hvalue.text
  have hlower := return_not_mem_lower hname
  cases hquoted : p.value.quoted with
  | false => simp [Parameter.chars, hquoted, hblanks, hlower, htext, hvalue.blanks]
  | true => simp [Parameter.chars, hquoted, hblanks, hlower, htext, hvalue.blanks]

theorem parameters?_oneLine {fuel : Nat} {ps : List Parameter} {ending : List Char}
    (h : parameters? fuel cs = some (ps, ending)) :
    (∀ p ∈ ps, '\r' ∉ p.chars) ∧ '\r' ∉ ending := by
  induction fuel generalizing cs ps ending with
  | zero => cases h
  | succ fuel ih =>
    have hblanks : '\r' ∉ cs.takeWhile (· = ' ') := return_not_mem_takeWhile (by decide) cs
    unfold parameters? at h
    dsimp only at h
    split at h
    · cases h
      exact ⟨nofun, by simp [hblanks]⟩
    · obtain ⟨⟨name, behind⟩, htoken, h⟩ := Option.bind_eq_some_iff.1 h
      have hname := return_not_mem_token htoken
      split at h
      · rename_i heq
        cases heq
        obtain ⟨⟨value, behind⟩, hvalue, h⟩ := Option.bind_eq_some_iff.1 h
        have hchars := Parameter.return_not_mem_chars (p := ⟨cs.takeWhile (· = ' '), _, value⟩)
          hblanks hname (value?_oneLine hvalue)
        split at h
        · rename_i heq
          cases heq
          cases h
          exact ⟨by simpa using hchars, List.not_mem_nil⟩
        · rename_i heq
          cases heq
          obtain ⟨⟨parameters, last⟩, hlater, h⟩ := Option.bind_eq_some_iff.1 h
          cases h
          obtain ⟨hparameters, hending⟩ := ih hlater
          exact ⟨List.forall_mem_cons.2 ⟨hchars, hparameters⟩, hending⟩
        · cases h
      · cases h

/-- A media type that is declared is written on one line. -/
theorem return_not_mem_chars {mime : String} {m : Declared} (h : declared? mime = some m) :
    '\r' ∉ m.chars := by
  have hwritten : ∀ {essence : List Char} {parameters : List Parameter} {ending : List Char},
      '\r' ∉ essence → (∀ p ∈ parameters, '\r' ∉ p.chars) → '\r' ∉ ending →
        '\r' ∉ (Declared.mk essence parameters ending).chars := by
    intro essence parameters ending hessence hparameters hending
    rw [Declared.chars, List.mem_append, not_or]
    refine ⟨return_not_mem_lower hessence, ?_⟩
    split
    · exact List.not_mem_nil
    · rw [List.mem_append, List.mem_flatMap, not_or]
      exact ⟨fun ⟨p, hp, hmem⟩ => hparameters p hp hmem, hending⟩
  obtain ⟨⟨type, behind⟩, htype, h⟩ := Option.bind_eq_some_iff.1 h
  have hclean := return_not_mem_token htype
  split at h
  · rename_i heq
    cases heq
    cases h
    exact hwritten (by simp [hclean]) nofun List.not_mem_nil
  · rename_i heq
    cases heq
    obtain ⟨⟨subtype, behind⟩, hsubtype, h⟩ := Option.bind_eq_some_iff.1 h
    have hbehind := return_not_mem_token hsubtype
    have hessence : '\r' ∉ type ++ '/' :: subtype := by simp [hclean, hbehind]
    split at h
    · rename_i heq
      cases heq
      cases h
      exact hwritten hessence nofun List.not_mem_nil
    · rename_i heq
      cases heq
      obtain ⟨⟨parameters, ending⟩, hparameters, h⟩ := Option.bind_eq_some_iff.1 h
      cases h
      obtain ⟨hchars, hending⟩ := parameters?_oneLine hparameters
      exact hwritten hessence hchars hending
    · cases h
  · cases h

end MerchantApi.MediaType
