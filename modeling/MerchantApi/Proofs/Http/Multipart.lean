import MerchantApi.Http.Multipart
import MerchantApi.Proofs.MediaType
import MerchantApi.Proofs.Text.Cut
import MerchantApi.Proofs.Text.Utf8
/-!
# Forms read back

A form is read by its boundary alone: a field has lines of headers up to an empty
one, and its content ends where the next line with the boundary starts.  What was
written is read as it was, in its order, if no such line stands in a content.
-/

namespace MerchantApi.Http.Multipart

open Text

/-! ## A reader of forms -/

structure Entry where
  name : String
  fileName : Option String
  content : ByteArray

/-- What ends the content of a field. -/
def delimiter (boundary : String) : List UInt8 :=
  octets (crlf ++ '-' :: '-' :: boundary.toList)

/-- The text up to the closing quote, where a backslash stands before what it escapes. -/
def quotedText? : List Char → Option (List Char)
  | [] => none
  | '"' :: _ => some []
  | '\\' :: c :: rest => (quotedText? rest).map (c :: ·)
  | c :: rest => (quotedText? rest).map (c :: ·)

def disposition? (line : List UInt8) : Option (String × Option String) := do
  let text ← ofUtf8? ⟨line.toArray⟩
  let rest ← text.toList.dropPrefix? "Content-Disposition: form-data; name=\"".toList
  let name := String.ofList (rest.takeWhile (· ≠ '"'))
  match (rest.dropWhile (· ≠ '"')).dropPrefix? "\"; filename=\"".toList with
  | none => return (name, none)
  | some rest =>
    let fileName ← quotedText? rest
    return (name, some (String.ofList fileName))

/-- The lines up to an empty one, and what follows that.  `fuel` bounds their number. -/
def headerLines? : (fuel : Nat) → List UInt8 → Option (List (List UInt8) × List UInt8)
  | 0, _ => none
  | fuel + 1, bytes => do
    let (line, rest) ← bytes.dropInfix? (octets crlf)
    if line.isEmpty then return ([], rest)
    else
      let (lines, rest) ← headerLines? fuel rest
      return (line :: lines, rest)

/-- The fields behind a boundary, up to the one that two hyphens follow.  `fuel` bounds
their number. -/
def entries? (boundary : String) : (fuel : Nat) → List UInt8 → Option (List Entry)
  | 0, _ => none
  | fuel + 1, bytes =>
    if (octets ['-', '-']).isPrefixOf bytes then some []
    else do
      let bytes ← bytes.dropPrefix? (octets crlf)
      let (lines, bytes) ← headerLines? (bytes.length + 1) bytes
      let (name, fileName) ← lines.findSome? disposition?
      let (content, bytes) ← bytes.dropInfix? (delimiter boundary)
      let entries ← entries? boundary fuel bytes
      return ⟨name, fileName, ⟨content.toArray⟩⟩ :: entries

def read? (boundary : String) (body : ByteArray) : Option (List Entry) := do
  let bytes ← body.data.toList.dropPrefix? (octets ('-' :: '-' :: boundary.toList))
  entries? boundary (bytes.length + 1) bytes

/-! ## Headers -/

def entry : Part → Entry
  | .text name value => ⟨name, none, value.toUTF8⟩
  | .file name fileName _ bytes => ⟨name, some fileName, bytes⟩

/-- A name that is written without an escape. -/
def IsPlain (name : String) : Prop := name.toList.any escapedInName = false

/-- A part that a reader can tell from the rest of its form. -/
structure Legible (boundary : String) (part : Part) : Prop where
  name : IsPlain (entry part).name
  mime : badMime? part = none
  content : ¬ delimiter boundary <:+: (content part).data.toList

theorem quotedText?_append (cs rest : List Char) :
    quotedText? (cs.flatMap quote ++ '"' :: rest) = some cs := by
  induction cs with
  | nil => rw [List.flatMap_nil, List.nil_append, quotedText?]
  | cons c cs ih =>
    rw [List.flatMap_cons, List.append_assoc]
    by_cases hquoted : c = '\\' ∨ c = '"' ∨ c = '\r' ∨ c = '\n'
    · rw [quote, if_pos hquoted, List.cons_append, List.singleton_append, quotedText?, ih]
      rfl
    · rw [not_or, not_or] at hquoted
      rw [quote, if_neg (by simp only [hquoted, false_or, not_false_eq_true]),
        List.singleton_append, quotedText?, ih]
      · rfl
      · exact fun heq => absurd heq hquoted.2.1
      · exact fun _ _ heq _ => absurd heq hquoted.1

variable {name : String}

private theorem IsPlain.escapedInName_eq_false (h : IsPlain name) {c : Char}
    (hc : c ∈ name.toList) :
    escapedInName c = false := eq_false_of_ne_true (List.any_eq_false.1 h c hc)

theorem nameHeader_of_isPlain (h : IsPlain name) :
    nameHeader name = "name=\"".toList ++ name.toList ++ ['"'] := by
  have hkept : Url.escapeText escapedInName name.toList = name.toList := by
    calc name.toList.flatMap (fun c => if escapedInName c then Url.escape c else [c])
        = name.toList.flatMap fun c => [c] := by
          apply List.flatMap_congr
          intro c hc
          rw [h.escapedInName_eq_false hc, if_neg Bool.false_ne_true]
      _ = name.toList := List.flatMap_singleton' _
  have hnone : name.toList.any escapedInName = false := h
  simp only [nameHeader, hnone, hkept, Bool.false_and, Bool.false_eq_true, if_false]

theorem IsPlain.not_mem (h : IsPlain name) {c : Char} (hc : escapedInName c = true) :
    c ∉ name.toList := by
  intro hmem
  rw [h.escapedInName_eq_false hmem] at hc
  cases hc

/-! ### Lines -/

def linesOf : Part → List (List Char)
  | .text name _ => [dispositionHeader ++ nameHeader name]
  | .file name fileName mime _ =>
    [dispositionHeader ++ nameHeader name ++ fileNameHeader fileName,
      typeHeader ++ normalMime mime]

theorem headers_append (part : Part) :
    headers part ++ crlf ++ crlf = (linesOf part).flatMap (· ++ crlf) ++ crlf := by
  cases part with
  | text name value => rw [headers, linesOf, List.flatMap_singleton]
  | file name fileName mime content =>
    simp only [headers, linesOf, List.flatMap_cons, List.flatMap_nil, List.append_assoc,
      List.append_nil]

private theorem crlf_not_infix_of_not_mem {cs : List Char} (h : '\r' ∉ cs) : ¬ crlf <:+: cs :=
  fun hinside => h (hinside.subset List.mem_cons_self)

private theorem crlf_infix_of_cons {c : Char} {cs : List Char}
    (hc : c ≠ '\r' ∨ cs.head? ≠ some '\n') (h : crlf <:+: c :: cs) : crlf <:+: cs := by
  rw [List.infix_cons_iff] at h
  refine h.resolve_left fun hstart => ?_
  obtain ⟨hreturn, rest, hrest⟩ := List.cons_prefix_cons.1 hstart
  rcases hc with hne | hne
  · exact hne hreturn.symm
  · exact hne (hrest ▸ rfl)

private theorem head?_quoted (cs : List Char) : (cs.flatMap quote ++ ['"']).head? ≠ some '\n' := by
  cases cs with
  | nil => decide
  | cons c cs =>
    rw [List.flatMap_cons, quote]
    split
    · exact fun heq => absurd (Option.some.inj heq) (by decide)
    · rename_i hquoted
      exact fun heq => hquoted (Or.inr (Or.inr (Or.inr (Option.some.inj heq))))

/-- In a file name the end of a line is torn apart by a backslash. -/
theorem crlf_not_infix_quoted (cs : List Char) : ¬ crlf <:+: cs.flatMap quote ++ ['"'] := by
  induction cs with
  | nil => decide
  | cons c cs ih =>
    intro h
    rw [List.flatMap_cons, List.append_assoc, quote] at h
    apply ih
    split at h
    · exact crlf_infix_of_cons (Or.inr (head?_quoted cs))
        (crlf_infix_of_cons (Or.inl (by decide)) h)
    · exact crlf_infix_of_cons (Or.inr (head?_quoted cs)) h

variable {boundary : String} {part : Part}

private theorem return_not_mem_nameHeader (h : IsPlain name) :
    '\r' ∉ dispositionHeader ++ nameHeader name := by
  have hname := h.not_mem (c := '\r') rfl
  rw [nameHeader_of_isPlain h]
  simp only [List.mem_append, hname, or_false, not_or]
  exact ⟨by decide, by decide, by decide⟩

private theorem return_not_mem_normalMime {mime : String}
    (h : (MediaType.declared? mime).isSome = true) :
    '\r' ∉ normalMime mime := by
  obtain ⟨m, hm⟩ := Option.isSome_iff_exists.1 h
  rw [normalMime, hm]
  exact MediaType.return_not_mem_chars hm

private theorem Legible.isSome_declared? {fileName mime : String} {content : ByteArray}
    (h : Legible boundary (.file name fileName mime content)) :
    (MediaType.declared? mime).isSome = true := by
  have hmime := h.mime
  rw [badMime?] at hmime
  by_contra hnone
  rw [if_neg hnone] at hmime
  cases hmime

private theorem return_not_mem_fileMark : '\r' ∉ "; filename=\"".toList := by decide

private theorem return_not_mem_typeHeader : '\r' ∉ typeHeader := by decide

private theorem crlf_not_infix_fileLine (h : IsPlain name) (fileName : String) :
    ¬ crlf <:+: dispositionHeader ++ nameHeader name ++ fileNameHeader fileName := by
  intro hinside
  have hfile := infix_of_infix_append (return_not_mem_nameHeader h) hinside
  unfold fileNameHeader at hfile
  rw [List.append_assoc] at hfile
  have hquoted := infix_of_infix_append return_not_mem_fileMark hfile
  exact crlf_not_infix_quoted _ hquoted

theorem Legible.not_crlf_mem_lines (h : Legible boundary part) :
    ∀ line ∈ linesOf part, ¬ crlf <:+: line := by
  cases part with
  | text name value =>
    exact List.forall_mem_singleton.2
      (crlf_not_infix_of_not_mem (return_not_mem_nameHeader h.name))
  | file name fileName mime content =>
    have hmime := return_not_mem_normalMime h.isSome_declared?
    refine List.forall_mem_cons.2
      ⟨crlf_not_infix_fileLine h.name fileName, List.forall_mem_singleton.2 ?_⟩
    apply crlf_not_infix_of_not_mem
    rw [List.mem_append, not_or]
    exact ⟨return_not_mem_typeHeader, hmime⟩

private theorem ne_nil_of_mem_linesOf {line : List Char} (h : line ∈ linesOf part) : line ≠ [] := by
  have hheader : ∀ cs, dispositionHeader ++ cs ≠ [] := fun cs heq =>
    absurd (List.append_eq_nil_iff.1 heq).1 (by decide)
  cases part with
  | text name value =>
    rw [List.mem_singleton.1 h]
    exact hheader _
  | file name fileName mime content =>
    rcases List.mem_cons.1 h with rfl | hmem
    · rw [List.append_assoc]
      exact hheader _
    · rw [List.mem_singleton.1 hmem]
      exact fun heq => absurd (List.append_eq_nil_iff.1 heq).1 (by decide)

private theorem length_linesOf_le (part : Part) : (linesOf part).length ≤ 2 := by
  cases part with
  | text => exact Nat.le_succ 1
  | file => exact Nat.le_refl 2

/-! ### Names -/

private theorem disposition_nameHeader (h : IsPlain name) (behind : List Char) :
    dispositionHeader ++ nameHeader name ++ behind =
      "Content-Disposition: form-data; name=\"".toList ++ (name.toList ++ '"' :: behind) := by
  have hstart : "Content-Disposition: form-data; name=\"".toList =
      dispositionHeader ++ "name=\"".toList := by decide +kernel
  rw [nameHeader_of_isPlain h, hstart]
  simp only [List.append_assoc, List.singleton_append]

theorem disposition?_append (h : IsPlain name) (behind : List Char) :
    disposition? (octets (dispositionHeader ++ nameHeader name ++ behind)) =
      match ('"' :: behind).dropPrefix? "\"; filename=\"".toList with
      | none => some (name, none)
      | some rest =>
        (quotedText? rest).map fun fileName => (name, some (String.ofList fileName)) := by
  have hquote : '"' ∉ name.toList := h.not_mem rfl
  have hline := disposition_nameHeader h behind
  rw [disposition?, ofUtf8?_octets, Option.bind_eq_bind, Option.bind_some, String.toList_ofList,
    hline, List.dropPrefix?_append_of_beq _ BEq.rfl, Option.bind_eq_bind, Option.bind_some]
  dsimp only
  rw [takeWhile_ne_append_cons hquote, dropWhile_ne_append_cons hquote, String.ofList_toList]
  cases ('"' :: behind).dropPrefix? "\"; filename=\"".toList with
  | none => rfl
  | some rest => exact Option.map_eq_bind.symm

theorem disposition?_octets (h : Legible boundary part) :
    ∃ line lines, linesOf part = line :: lines ∧
      disposition? (octets line) = some ((entry part).name, (entry part).fileName) := by
  cases part with
  | text name value =>
    have hread := disposition?_append h.name []
    rw [List.append_nil] at hread
    exact ⟨_, _, rfl, hread⟩
  | file name fileName mime content =>
    have hplain : IsPlain name := h.name
    have hfile : '"' :: fileNameHeader fileName =
        "\"; filename=\"".toList ++ (fileName.toList.flatMap quote ++ ['"']) := by
      unfold fileNameHeader
      rw [List.append_assoc]
      rfl
    refine ⟨_, _, rfl, ?_⟩
    rw [disposition?_append hplain, hfile, List.dropPrefix?_append_of_beq _ BEq.rfl]
    dsimp only
    rw [quotedText?_append, Option.map_some, String.ofList_toList]
    rfl

/-! ## Fields -/

private theorem ascii_crlf : ∀ c ∈ crlf, c.toNat < 0x80 :=
  List.forall_mem_cons.2 ⟨by decide, List.forall_mem_singleton.2 (by decide)⟩

theorem dropInfix?_crlf {line : List Char} (h : ¬ crlf <:+: line) (rest : List UInt8) :
    (octets line ++ octets crlf ++ rest).dropInfix? (octets crlf) = some (octets line, rest) := by
  have hline : ¬ octets crlf <:+: octets line := fun hinside =>
    h (infix_of_octets ascii_crlf hinside)
  exact dropInfix?_append (by decide) hline rest

/-- Lines are read up to the empty one. -/
theorem headerLines?_append {lines : List (List Char)} (hcut : ∀ line ∈ lines, ¬ crlf <:+: line)
    (hsome : ∀ line ∈ lines, line ≠ []) {fuel : Nat} (hfuel : lines.length < fuel)
    (rest : List UInt8) :
    headerLines? fuel (octets (lines.flatMap (· ++ crlf) ++ crlf) ++ rest) =
      some (lines.map octets, rest) := by
  induction lines generalizing fuel with
  | nil =>
    obtain ⟨fuel, rfl⟩ := Nat.exists_eq_succ_of_ne_zero (Nat.ne_of_gt hfuel)
    have hempty : ¬ crlf <:+: ([] : List Char) := by decide
    have hline := dropInfix?_crlf hempty rest
    rw [headerLines?, List.flatMap_nil, List.nil_append]
    exact congrArg (Option.bind · _) hline
  | cons line lines ih =>
    obtain ⟨fuel, rfl⟩ := Nat.exists_eq_succ_of_ne_zero (Nat.ne_zero_of_lt hfuel)
    obtain ⟨hline, hcut⟩ := List.forall_mem_cons.1 hcut
    obtain ⟨hne, hsome⟩ := List.forall_mem_cons.1 hsome
    have hrest := ih hcut hsome (Nat.lt_of_succ_lt_succ hfuel)
    have hbytes : octets ((line :: lines).flatMap (· ++ crlf) ++ crlf) ++ rest =
        octets line ++ octets crlf ++ (octets (lines.flatMap (· ++ crlf) ++ crlf) ++ rest) := by
      simp only [List.flatMap_cons, octets_append, List.append_assoc]
    have hfull : (octets line).isEmpty = false :=
      List.isEmpty_eq_false_iff.2 (octets_ne_nil hne)
    rw [headerLines?, hbytes, dropInfix?_crlf hline, Option.bind_eq_bind, Option.bind_some]
    dsimp only
    rw [hfull, if_neg Bool.false_ne_true, hrest]
    rfl

theorem delimiter_eq (boundary : String) :
    delimiter boundary = 13 :: octets ('\n' :: '-' :: '-' :: boundary.toList) := by
  rw [delimiter, crlf, List.cons_append, octets_cons_ascii (by decide)]
  rfl

theorem dropInfix?_delimiter (hboundary : '\r' ∉ boundary.toList) {content : List UInt8}
    (h : ¬ delimiter boundary <:+: content) (rest : List UInt8) :
    (content ++ delimiter boundary ++ rest).dropInfix? (delimiter boundary) =
      some (content, rest) := by
  have honce : 13 ∉ octets ('\n' :: '-' :: '-' :: boundary.toList) := by
    have hreturn : '\r' ∉ '\n' :: '-' :: '-' :: boundary.toList := by simp [hboundary]
    exact not_mem_octets (by decide) hreturn
  rw [delimiter_eq] at h ⊢
  exact dropInfix?_append honce h rest

/-- What stands between the boundary before a part and the end of its content. -/
def field (part : Part) : List UInt8 :=
  octets crlf ++ octets (headers part ++ crlf ++ crlf) ++ (content part).data.toList

def behindBoundary (boundary : String) (parts : List Part) : List UInt8 :=
  parts.flatMap (fun part => field part ++ delimiter boundary) ++ octets ('-' :: '-' :: crlf)

private theorem content_entry (part : Part) : (entry part).content = content part := by
  cases part with
  | text => rfl
  | file => rfl

theorem entries?_field (hboundary : '\r' ∉ boundary.toList) (h : Legible boundary part)
    (fuel : Nat) (rest : List UInt8) :
    entries? boundary (fuel + 1) (field part ++ delimiter boundary ++ rest) =
      (entries? boundary fuel rest).map (entry part :: ·) := by
  obtain ⟨line, lines, hlines, hdisposition⟩ := disposition?_octets h
  -- The bytes are split as the reader takes them: a line end, the headers, the content.
  have hfield : field part ++ delimiter boundary ++ rest =
      octets crlf ++ (octets ((linesOf part).flatMap (· ++ crlf) ++ crlf) ++
        ((content part).data.toList ++ delimiter boundary ++ rest)) := by
    rw [field, headers_append]
    simp only [List.append_assoc]
  have hopen :
      (octets ['-', '-']).isPrefixOf (field part ++ delimiter boundary ++ rest) = false := by
    rw [hfield]
    rfl
  have hfuel : (linesOf part).length < (octets ((linesOf part).flatMap (· ++ crlf) ++ crlf) ++
      ((content part).data.toList ++ delimiter boundary ++ rest)).length + 1 := by
    have htwo : (octets crlf).length = 2 := rfl
    have hcount := length_linesOf_le part
    rw [octets_append, List.length_append, List.length_append, htwo]
    omega
  have hfound : ((linesOf part).map octets).findSome? disposition? =
      some ((entry part).name, (entry part).fileName) := by
    rw [hlines, List.map_cons, List.findSome?_cons, hdisposition]
  rw [entries?, hopen, if_neg Bool.false_ne_true, hfield,
    List.dropPrefix?_append_of_beq _ BEq.rfl, Option.bind_eq_bind, Option.bind_some,
    headerLines?_append h.not_crlf_mem_lines (fun _ => ne_nil_of_mem_linesOf) hfuel,
    Option.bind_eq_bind, Option.bind_some]
  dsimp only
  rw [hfound, Option.bind_eq_bind, Option.bind_some]
  dsimp only
  rw [dropInfix?_delimiter hboundary h.content, Option.bind_eq_bind, Option.bind_some,
    Array.toArray_toList, Option.map_eq_bind, ← content_entry]
  rfl

theorem entries?_behindBoundary (hboundary : '\r' ∉ boundary.toList) {parts : List Part}
    (h : ∀ part ∈ parts, Legible boundary part) {fuel : Nat} (hfuel : parts.length < fuel) :
    entries? boundary fuel (behindBoundary boundary parts) = some (parts.map entry) := by
  induction parts generalizing fuel with
  | nil =>
    obtain ⟨fuel, rfl⟩ := Nat.exists_eq_succ_of_ne_zero (Nat.ne_of_gt hfuel)
    rfl
  | cons part parts ih =>
    obtain ⟨fuel, rfl⟩ := Nat.exists_eq_succ_of_ne_zero (Nat.ne_zero_of_lt hfuel)
    obtain ⟨hpart, hparts⟩ := List.forall_mem_cons.1 h
    have hrest := ih hparts (Nat.lt_of_succ_lt_succ hfuel)
    rw [behindBoundary] at hrest ⊢
    rw [List.flatMap_cons, List.append_assoc, entries?_field hboundary hpart, hrest]
    rfl

private theorem length_le_behindBoundary (boundary : String) (parts : List Part) :
    parts.length ≤ (behindBoundary boundary parts).length := by
  have hfields : parts.length ≤
      (parts.flatMap fun part => field part ++ delimiter boundary).length := by
    induction parts with
    | nil => exact Nat.le_refl 0
    | cons part parts ih =>
      have hpart : 0 < (field part ++ delimiter boundary).length := by
        rw [delimiter_eq, List.length_append, List.length_cons]
        omega
      rw [List.flatMap_cons, List.length_cons, List.length_append]
      omega
  rw [behindBoundary, List.length_append]
  omega

/-! ## Forms -/

private theorem bytes_encodePart (boundary : String) (part : Part) :
    (encodePart boundary part).data.toList =
      octets ('-' :: '-' :: boundary.toList) ++ field part ++ octets crlf := by
  have hheaders : '-' :: '-' :: boundary.toList ++ crlf ++ headers part ++ crlf ++ crlf =
      '-' :: '-' :: boundary.toList ++ (crlf ++ (headers part ++ crlf ++ crlf)) := by
    simp only [List.append_assoc, List.cons_append]
  rw [encodePart, ByteArray.data_append, ByteArray.data_append, Array.toList_append,
    Array.toList_append, toList_toUTF8_ofList, toList_toUTF8_ofList, hheaders, octets_append,
    octets_append crlf, field]
  simp only [List.append_assoc]

/-- Of the boundaries around the parts, each part takes the one behind it. -/
theorem bytes_foldl (boundary : String) (parts : List Part) (before : ByteArray) :
    (parts.foldl (fun bytes part => bytes ++ encodePart boundary part) before).data.toList ++
        octets ('-' :: '-' :: boundary.toList) =
      before.data.toList ++ octets ('-' :: '-' :: boundary.toList) ++
        parts.flatMap fun part => field part ++ delimiter boundary := by
  induction parts generalizing before with
  | nil => rw [List.foldl_nil, List.flatMap_nil, List.append_nil]
  | cons part parts ih =>
    rw [List.foldl_cons, ih, ByteArray.data_append, Array.toList_append, bytes_encodePart,
      List.flatMap_cons, delimiter, octets_append crlf]
    simp only [List.append_assoc]

theorem bytes_encode (boundary : String) {parts : List Part} (h : parts ≠ []) :
    (encode boundary parts).data.toList =
      octets ('-' :: '-' :: boundary.toList) ++ behindBoundary boundary parts := by
  have hclosing : '-' :: '-' :: boundary.toList ++ ['-', '-'] ++ crlf =
      '-' :: '-' :: boundary.toList ++ ('-' :: '-' :: crlf) := by
    simp only [List.append_assoc, List.cons_append, List.nil_append]
  have hsome : parts.isEmpty = false := List.isEmpty_eq_false_iff.2 h
  have hparts := bytes_foldl boundary parts .empty
  rw [encode, hsome, if_neg Bool.false_ne_true, ByteArray.data_append, Array.toList_append,
    toList_toUTF8_ofList, hclosing, octets_append, ← List.append_assoc, hparts, behindBoundary]
  simp only [List.append_assoc]
  rfl

/-- A form is read as the parts that were written, in their order. -/
theorem read?_encode (hboundary : '\r' ∉ boundary.toList) {parts : List Part} (hsome : parts ≠ [])
    (h : ∀ part ∈ parts, Legible boundary part) :
    read? boundary (encode boundary parts) = some (parts.map entry) := by
  have hfuel := Nat.lt_succ_of_le (length_le_behindBoundary boundary parts)
  rw [read?, bytes_encode boundary hsome, List.dropPrefix?_append_of_beq _ BEq.rfl,
    Option.bind_eq_bind, Option.bind_some]
  exact entries?_behindBoundary hboundary h hfuel

end MerchantApi.Http.Multipart
