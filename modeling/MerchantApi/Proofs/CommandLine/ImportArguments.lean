import MerchantApi.CommandLine.Arguments
import MerchantApi.Proofs.CommandLine.HeaderMapping
/-!
# The arguments of an import

The options of an import may stand before and behind the name of its file, with
their values in the same argument or in the next one.  Every accepted value adds
its header and field to those that were given before.
-/

namespace MerchantApi.CommandLine

def importRules : Rules where
  options := [⟨"map", none, storeHeader⟩]
  operands := .one storeFile
  command? d := d.file.map fun file => .importMerchants file d.headers

private theorem parse_import (args : List String) :
    parse ("merchants" :: "import" :: args) = importRules.read args := rfl

inductive GivesHeaders : List String → List (String × String) → Prop where
  | nil : GivesHeaders [] []
  | joined {raw : String} {entry : String × String} {args : List String}
    {headers : List (String × String)} (hraw : headerMapping? raw = some entry)
    (hrest : GivesHeaders args headers) :
    GivesHeaders (("--map=" ++ raw) :: args) (entry :: headers)
  | apart {raw : String} {entry : String × String} {args : List String}
    {headers : List (String × String)} (hraw : headerMapping? raw = some entry)
    (hword : Token.ofText raw = .word) (hrest : GivesHeaders args headers) :
    GivesHeaders ("--map" :: raw :: args) (entry :: headers)

namespace Scan

/-- A scan that amounts to a draft, with so many operands, once its values are checked. -/
structure AmountsTo (s : Scan) (d : Draft) (count : Nat) : Prop where
  settles : s.settle = .ok ⟨d, .nothing, count, false⟩
  counts : s.operands = count
  unescaped : s.escaped = false

variable {s : Scan} {d : Draft} {count : Nat}

private theorem amountsTo_start : start.AmountsTo .empty 0 := ⟨rfl, rfl, rfl⟩

theorem AmountsTo.read_word (h : s.AmountsTo d count) (rules : Rules) {arg : String}
    (hword : Token.ofText arg = .word) : s.read rules arg = s.operand rules.operands arg := by
  have hpending : ∀ store, s.pending ≠ .option store none := by
    intro store hpending
    have hsettles := h.settles
    rw [settle, hpending] at hsettles
    cases hsettles
  rw [read, h.unescaped, hword]
  -- The first case of what is pending is ruled out by `hpending`.
  simp only [Bool.false_eq_true, if_false]

private theorem storeFile_eq_ok {file : String} (hfile : file ≠ "") (d : Draft) :
    storeFile d file = .ok { d with file := some file } := by
  rw [storeFile, if_neg (by simpa using hfile)]

private theorem settle_file {file : String} (hfile : file ≠ "") (d : Draft) (escaped : Bool) :
    settle ⟨d, .operands storeFile [file], 1, escaped⟩ =
      .ok ⟨{ d with file := some file }, .nothing, 1, escaped⟩ := by
  rw [settle]
  simp only [List.foldlM_cons, storeFile_eq_ok hfile]
  rfl

private theorem AmountsTo.read_file (h : s.AmountsTo d 0) {file : String} (hfile : file ≠ "")
    (hword : Token.ofText file = .word) :
    ∃ t, s.read importRules file = .ok t ∧ t.AmountsTo { d with file := some file } 1 := by
  refine ⟨⟨d, .operands storeFile [file], 1, false⟩, ?_, settle_file hfile d false, rfl, rfl⟩
  rw [h.read_word importRules hword]
  change (if s.operands = 0 then _ else _) = _
  rw [if_pos h.counts, h.settles]
  rfl

theorem settle_escape (s : Scan) :
    settle { s with escaped := true } = s.settle.map fun t => { t with escaped := true } := by
  obtain ⟨d, pending, count, escaped⟩ := s
  rw [settle, settle]
  cases pending with
  | nothing => rfl
  | option store value =>
    cases value with
    | none => rfl
    | some value =>
      dsimp only
      cases store d value <;> rfl
  | operands store values =>
    dsimp only
    cases values.foldlM store d <;> rfl

/-- Behind two dashes a file may have any name but an empty one. -/
theorem AmountsTo.read_escaped (h : s.AmountsTo d 0) {file : String} (hfile : file ≠ "") :
    ∃ t, ["--", file].foldlM (read importRules) s = .ok t ∧
      t.settle = .ok ⟨{ d with file := some file }, .nothing, 1, true⟩ := by
  have hdashes : s.read importRules "--" = .ok { s with escaped := true } := by
    rw [read, h.unescaped]
    rfl
  have hsettles : settle { s with escaped := true } = .ok ⟨d, .nothing, 0, true⟩ := by
    rw [settle_escape, h.settles]
    rfl
  refine ⟨⟨d, .operands storeFile [file], 1, true⟩, ?_, settle_file hfile d true⟩
  rw [List.foldlM_cons, hdashes]
  change [file].foldlM (read importRules) { s with escaped := true } = _
  rw [List.foldlM_cons]
  change ((if s.operands = 0 then _ else _) >>= _ : Step) = _
  rw [if_pos h.counts, hsettles]
  rfl

private theorem settle_option {raw : String} {entry : String × String}
    (hraw : headerMapping? raw = some entry) (d : Draft) (count : Nat) :
    settle ⟨d, .option storeHeader (some raw), count, false⟩ =
      .ok ⟨{ d with headers := d.headers ++ [entry] }, .nothing, count, false⟩ := by
  have hstored : storeHeader d raw = .ok { d with headers := d.headers ++ [entry] } := by
    rw [storeHeader, hraw]
  rw [settle]
  simp only [hstored]
  rfl

private theorem AmountsTo.read_joined (h : s.AmountsTo d count) {raw : String}
    {entry : String × String} (hraw : headerMapping? raw = some entry) :
    ∃ t, s.read importRules ("--map=" ++ raw) = .ok t ∧
      t.AmountsTo { d with headers := d.headers ++ [entry] } count := by
  have htoken : Token.ofText ("--map=" ++ raw) = .long "map".toList (some raw.toList) := by
    have hsplit : splitEquals? ("map".toList ++ '=' :: raw.toList) =
        some ("map".toList, raw.toList) := splitEquals?_append_cons (by decide) raw.toList
    rw [Token.ofText, String.toList_append]
    change Token.ofChars ('-' :: '-' :: ("map".toList ++ '=' :: raw.toList)) = _
    rw [Token.ofChars, hsplit]
    nofun
  refine ⟨⟨{ d with headers := d.headers ++ [entry] }, .nothing, count, false⟩, ?_, rfl, rfl, rfl⟩
  rw [read, h.unescaped, htoken]
  change s.beginOption storeHeader (some raw.toList) = _
  rw [beginOption, h.settles]
  change settle ⟨d, .option storeHeader (some (String.ofList raw.toList)), count, false⟩ = _
  rw [String.ofList_toList, settle_option hraw]

private theorem AmountsTo.read_apart (h : s.AmountsTo d count) {raw : String}
    {entry : String × String} (hraw : headerMapping? raw = some entry)
    (hword : Token.ofText raw = .word) :
    ∃ t, ["--map", raw].foldlM (read importRules) s = .ok t ∧
      t.AmountsTo { d with headers := d.headers ++ [entry] } count := by
  have hfirst : s.read importRules "--map" =
      .ok ⟨d, .option storeHeader none, count, false⟩ := by
    rw [read, h.unescaped]
    change s.beginOption storeHeader none = _
    rw [beginOption, h.settles]
    rfl
  refine ⟨⟨d, .option storeHeader (some raw), count, false⟩, ?_, settle_option hraw d count, rfl,
    rfl⟩
  have hsecond : read importRules ⟨d, .option storeHeader none, count, false⟩ raw =
      .ok ⟨d, .option storeHeader (some raw), count, false⟩ := by
    rw [read, hword]
    rfl
  rw [List.foldlM_cons, hfirst]
  change [raw].foldlM (read importRules) _ = _
  rw [List.foldlM_cons, hsecond]
  rfl

theorem AmountsTo.foldlM_read {args : List String} {headers : List (String × String)}
    (hargs : GivesHeaders args headers) (h : s.AmountsTo d count) :
    ∃ t, args.foldlM (read importRules) s = .ok t ∧
      t.AmountsTo { d with headers := d.headers ++ headers } count := by
  induction hargs generalizing s d with
  | nil => exact ⟨s, rfl, by rwa [List.append_nil]⟩
  | joined hraw _ ih =>
    obtain ⟨t, ht, hamounts⟩ := h.read_joined hraw
    obtain ⟨u, hu, hresult⟩ := ih hamounts
    refine ⟨u, ?_, by rwa [List.append_assoc] at hresult⟩
    rw [List.foldlM_cons, ht]
    exact hu
  | @apart raw entry args _ hraw hword _ ih =>
    obtain ⟨t, ht, hamounts⟩ := h.read_apart hraw hword
    obtain ⟨u, hu, hresult⟩ := ih hamounts
    refine ⟨u, ?_, by rwa [List.append_assoc] at hresult⟩
    rw [show "--map" :: raw :: args = ["--map", raw] ++ args from rfl, List.foldlM_append, ht]
    exact hu

end Scan

theorem read_importRules {args : List String} {s : Scan} {d : Draft} {count : Nat} {escaped : Bool}
    {file : String} (hargs : args.foldlM (Scan.read importRules) .start = .ok s)
    (hsettle : s.settle = .ok ⟨d, .nothing, count, escaped⟩) (hfile : d.file = some file) :
    importRules.read args = .ok (.importMerchants file d.headers) := by
  have hcommand : importRules.command? d = some (.importMerchants file d.headers) := by
    change d.file.map _ = _
    rw [hfile]
    rfl
  rw [Rules.read, hargs]
  dsimp only [bind, Except.bind]
  rw [hsettle]
  dsimp only
  rw [hcommand]
  rfl

variable {before after : List String} {headers later : List (String × String)} {file : String}

theorem parse_importMerchants (hbefore : GivesHeaders before headers)
    (hafter : GivesHeaders after later) (hfile : file ≠ "") (hword : Token.ofText file = .word) :
    parse ("merchants" :: "import" :: (before ++ file :: after)) =
      .ok (.importMerchants file (headers ++ later)) := by
  obtain ⟨s, hs, hbegun⟩ := Scan.amountsTo_start.foldlM_read hbefore
  obtain ⟨t, ht, hnamed⟩ := hbegun.read_file hfile hword
  obtain ⟨u, hu, hdone⟩ := hnamed.foldlM_read hafter
  have hread : (before ++ file :: after).foldlM (Scan.read importRules) .start = .ok u := by
    rw [List.foldlM_append, hs]
    change (file :: after).foldlM (Scan.read importRules) s = _
    rw [List.foldlM_cons, ht]
    exact hu
  rw [parse_import]
  exact read_importRules hread hdone.settles rfl

theorem parse_importMerchants_escaped (hbefore : GivesHeaders before headers)
    (hfile : file ≠ "") :
    parse ("merchants" :: "import" :: (before ++ ["--", file])) =
      .ok (.importMerchants file headers) := by
  obtain ⟨s, hs, hbegun⟩ := Scan.amountsTo_start.foldlM_read hbefore
  obtain ⟨t, ht, hsettle⟩ := hbegun.read_escaped hfile
  have hread : (before ++ ["--", file]).foldlM (Scan.read importRules) .start = .ok t := by
    rw [List.foldlM_append, hs]
    exact ht
  rw [parse_import]
  exact read_importRules hread hsettle rfl

end MerchantApi.CommandLine
