import MerchantApi.Proofs.Http.BaseAddress
import MerchantApi.Proofs.Text.Cut
/-!
# Bases that are addresses

A base to which a slash is appended is an address or is none.  If it is one, then so is
every path below it: the scheme and the authority are read from what stands before the
slash.
-/

namespace MerchantApi.Http

namespace Url

theorem clean_subset (cs : List Char) : clean cs ⊆ cs := fun _ hc =>
  (List.dropWhile_sublist _).subset
    ((List.rdropWhile_prefix _ _).subset ((List.filter_sublist).subset (clean_eq cs ▸ hc)))

/-- The scheme of a text does not depend on what follows its colon. -/
theorem scheme?_append_cons {name : List Char} (hname : ':' ∉ name) (rest : List Char) :
    scheme? (name ++ ':' :: rest) =
      (scheme? (name ++ [':'])).map fun found => (found.1, rest) := by
  have hread : ∀ rest, scheme? (name ++ ':' :: rest) =
      if name.map Char.toLower = ['h', 't', 't', 'p'] then some ("http", rest)
      else if name.map Char.toLower = ['h', 't', 't', 'p', 's'] then some ("https", rest)
      else none := by
    intro rest
    rw [scheme?, Text.takeWhile_ne_append_cons hname, Text.dropWhile_ne_append_cons hname]
    rfl
  rw [hread, hread]
  split_ifs <;> rfl

theorem exists_of_scheme? {cs rest : List Char} {scheme : String}
    (h : scheme? cs = some (scheme, rest)) : ∃ name, ':' ∉ name ∧ cs = name ++ ':' :: rest := by
  by_cases hcolon : ':' ∈ cs
  · obtain ⟨name, behind, rfl, hname⟩ := List.eq_append_cons_of_mem hcolon
    rw [scheme?_append_cons hname, Option.map_eq_some_iff] at h
    obtain ⟨found, -, hfound⟩ := h
    obtain rfl := (Prod.mk.inj hfound).2
    exact ⟨name, hname, rfl⟩
  · rw [scheme?, Text.dropWhile_ne_eq_nil hcolon] at h
    cases h

theorem scheme?_append_of_eq_some {before behind : List Char} {scheme : String}
    (h : scheme? before = some (scheme, behind)) (after : List Char) :
    scheme? (before ++ after) = some (scheme, behind ++ after) := by
  obtain ⟨name, hname, rfl⟩ := exists_of_scheme? h
  rw [scheme?_append_cons hname, Option.map_eq_some_iff] at h
  obtain ⟨found, hfound, hscheme⟩ := h
  rw [List.append_assoc, List.cons_append, scheme?_append_cons hname, hfound,
    ← (Prod.mk.inj hscheme).1]
  rfl

/-- A slash does not end a scheme. -/
theorem scheme?_append_slash (cs : List Char) :
    scheme? (cs ++ ['/']) = (scheme? cs).map fun found => (found.1, found.2 ++ ['/']) := by
  cases hscheme : scheme? cs with
  | some found => exact scheme?_append_of_eq_some hscheme ['/']
  | none =>
    rw [Option.map_none, Option.eq_none_iff_forall_ne_some]
    rintro ⟨scheme, rest⟩ hslash
    obtain ⟨name, hname, hcs⟩ := exists_of_scheme? hslash
    have hcolon : ':' ∈ cs := by
      have hmem : ':' ∈ cs ++ ['/'] := by simp [hcs]
      simpa using hmem
    obtain ⟨name, behind, rfl, hname⟩ := List.eq_append_cons_of_mem hcolon
    rw [scheme?_append_cons hname, Option.map_eq_none_iff] at hscheme
    rw [List.append_assoc, List.cons_append, scheme?_append_cons hname, hscheme] at hslash
    cases hslash

variable {isHost : List Char → Bool} {text : String}

theorem origin?_eq (text : String) :
    origin? isHost text = (scheme? (clean text.toList)).bind fun found =>
      spelledOrigin? isHost found.1 (spelledAuthority found.2) := by
  cases hscheme : scheme? (clean text.toList) with
  | none =>
    rw [origin?, parse?, hscheme]
    rfl
  | some found => exact origin?_of_scheme? hscheme

private theorem isSome_origin? (text : String) :
    (origin? isHost text).isSome = (parse? isHost text).isSome :=
  Option.isSome_map

theorem spelledAuthority_append_slash (behind : List Char) :
    spelledAuthority (behind ++ ['/']) = spelledAuthority behind := by
  by_cases hslashes : ∀ c ∈ behind, isSlash c = true
  · rw [spelledAuthority_append_of_forall hslashes, spelledAuthority, spelledAuthority,
      List.dropWhile_eq_nil_iff.2 hslashes, List.dropWhile_nil]
  · push Not at hslashes
    obtain ⟨c, hc, hslash⟩ := hslashes
    exact spelledAuthority_append_of_mem hc (eq_false_of_ne_true hslash) []

/-- A slash behind an address that does not end in a blank changes no origin. -/
theorem origin?_append_slash (hlast : ∀ c ∈ text.toList.getLast?, isOuter c = false) :
    origin? isHost (text ++ "/") = origin? isHost text := by
  have hsame : (text.toList.dropWhile isOuter).rdropWhile isOuter =
      text.toList.dropWhile isOuter := by
    rw [List.rdropWhile_eq_self_iff]
    intro hne
    have hkept := hlast _ (List.getLast?_eq_getLast_of_ne_nil
      ((List.dropWhile_suffix isOuter).ne_nil hne))
    rw [(List.dropWhile_suffix isOuter).getLast hne, hkept]
    exact Bool.false_ne_true
  have hclean : clean (text ++ "/").toList = clean text.toList ++ ['/'] := by
    rw [show (text ++ "/").toList = text.toList ++ ['/'] from String.toList_append,
      clean_append_slash, clean_eq, hsame]
    rfl
  rw [origin?_eq, origin?_eq, hclean, scheme?_append_slash, Option.bind_map]
  refine congrArg _ (funext fun found => ?_)
  exact congrArg _ (spelledAuthority_append_slash found.2)

private theorem last_append_slash (text : String) :
    ∀ c ∈ (text ++ "/").toList.getLast?, isOuter c = false := by
  have hlist : (text ++ "/").toList = text.toList ++ ['/'] := String.toList_append
  intro c hc
  rw [hlist, List.getLast?_concat] at hc
  obtain rfl := Option.some.inj hc
  rfl

theorem origin?_append_slashes (hlast : ∀ c ∈ text.toList.getLast?, isOuter c = false) (n : Nat) :
    origin? isHost (text ++ Text.slashes n) = origin? isHost text := by
  induction n generalizing text with
  | zero => rw [Text.slashes_zero, String.append_empty]
  | succ n ih =>
    rw [Text.slashes_succ, ← String.append_assoc, ih (last_append_slash text),
      origin?_append_slash hlast]

end Url

namespace Client

open Url

/-- Whether the base of a client is an address, when a path is to follow. -/
def HasAddress (c : Client) (isHost : List Char → Bool) : Prop :=
  (parse? isHost (c.baseUrl ++ "/")).isSome = true

variable {isHost : List Char → Bool} {c : Client} {text : String}

/-- A base that is an address keeps its host: it has one before the paths. -/
theorem HasAddress.keepsHost (hempty : isHost [] = false) (h : c.HasAddress isHost) :
    c.KeepsHost isHost := by
  intro path
  have hroot : (origin? isHost (c.baseUrl ++ "/")).isSome = true := by rwa [isSome_origin?]
  have hlist : (c.baseUrl ++ "/").toList = c.baseUrl.toList ++ ['/'] := String.toList_append
  rw [origin?_eq, hlist, clean_append_slash, List.rdropWhile_nil, List.filter_nil] at hroot
  rw [origin?_eq, origin?_eq, hlist, clean_append_slash, List.rdropWhile_nil, List.filter_nil,
    toList_url, clean_append_slash]
  generalize (c.baseUrl.toList.dropWhile isOuter).filter isKept = before at hroot ⊢
  rw [scheme?_append_slash] at hroot
  cases hscheme : scheme? before with
  | none =>
    rw [hscheme] at hroot
    cases hroot
  | some found =>
    rw [scheme?_append_of_eq_some hscheme, scheme?_append_of_eq_some hscheme, Option.bind_some,
      Option.bind_some]
    rw [hscheme, Option.map_some, Option.bind_some] at hroot
    by_cases hslashes : ∀ c ∈ found.2, isSlash c = true
    · have hnone : spelledOrigin? isHost found.1 (spelledAuthority []) = none :=
        if_neg (by simp [hostOf, spelledAuthority, hempty])
      rw [spelledAuthority_append_of_forall hslashes, hnone] at hroot
      cases hroot
    · push Not at hslashes
      obtain ⟨c, hc, hslash⟩ := hslashes
      have hother : isSlash c = false := eq_false_of_ne_true hslash
      rw [spelledAuthority_append_of_mem hc hother, spelledAuthority_append_of_mem hc hother]

theorem HasAddress.exists_parse?_url (hempty : isHost [] = false) (h : c.HasAddress isHost)
    (path : String) : ∃ u, parse? isHost (c.url path) = some u := by
  rw [← Option.isSome_iff_exists, ← isSome_origin?, h.keepsHost hempty path, isSome_origin?]
  exact h

theorem hasAddress_ofBase_iff (hlast : ∀ c ∈ text.toList.getLast?, isOuter c = false) :
    (ofBase text).HasAddress isHost ↔ (parse? isHost text).isSome = true := by
  obtain ⟨n, htext⟩ := Text.exists_dropTrailingSlashes_append text
  have hbase : text = (ofBase text).baseUrl ++ Text.slashes n := by
    apply String.toList_injective
    rw [htext, String.toList_append, Text.toList_slashes]
    rfl
  have horigin : origin? isHost ((ofBase text).baseUrl ++ "/") = origin? isHost text := by
    generalize (ofBase text).baseUrl = base at hbase ⊢
    subst hbase
    cases n with
    | zero =>
      rw [Text.slashes_zero, String.append_empty] at hlast ⊢
      exact origin?_append_slash hlast
    | succ n =>
      rw [Text.slashes_succ, ← String.append_assoc,
        origin?_append_slashes (last_append_slash base)]
  rw [HasAddress, ← isSome_origin?, horigin, isSome_origin?]

end Client

end MerchantApi.Http
