import MerchantApi.Http.Client
import MerchantApi.Proofs.Text.Slash
import Mathlib.Tactic.Push
/-!
# Base addresses

A client keeps its configured address without the trailing slashes.  What is left
of it names a host of its own unless there was nothing behind the scheme but
slashes, backslashes, tabs and line breaks: then the host is read from the paths.
-/

namespace MerchantApi.Http

namespace Url

def origin? (isHost : List Char → Bool) (text : String) : Option (String × String) :=
  (parse? isHost text).map fun u => (u.scheme, u.authority)

structure TellsHosts (isHost : List Char → Bool) : Prop where
  empty : isHost [] = false
  localhost : isHost "localhost".toList = true

def IsWebScheme (scheme : String) : Prop := scheme = "http" ∨ scheme = "https"

/-- The authority that is spelled by what stands behind the colon of a scheme. -/
def spelledAuthority (behind : List Char) : List Char :=
  (behind.dropWhile isSlash).takeWhile fun c => !isEnd c

def spelledOrigin? (isHost : List Char → Bool) (scheme : String) (authority : List Char) :
    Option (String × String) :=
  if isHost (hostOf authority) then some (scheme, (String.ofList authority).toLower) else none

variable {isHost : List Char → Bool} {scheme text : String} {behind before after : List Char}

theorem origin?_of_scheme? (h : scheme? (clean text.toList) = some (scheme, behind)) :
    origin? isHost text = spelledOrigin? isHost scheme (spelledAuthority behind) := by
  rw [origin?, parse?, h, spelledOrigin?]
  change Option.map _ (if !isHost (hostOf (spelledAuthority behind)) then none else some _) = _
  cases isHost (hostOf (spelledAuthority behind)) with
  | false => rfl
  | true => rfl

private theorem scheme?_append (hscheme : IsWebScheme scheme) (behind : List Char) :
    scheme? (scheme.toList ++ ':' :: behind) = some (scheme, behind) := by
  obtain rfl | rfl := hscheme <;> rfl

theorem clean_eq (cs : List Char) :
    clean cs = ((cs.dropWhile isOuter).rdropWhile isOuter).filter isKept := rfl

/-- What follows a slash does not change what stands before it. -/
theorem clean_append_slash (before after : List Char) :
    clean (before ++ '/' :: after) =
      (before.dropWhile isOuter).filter isKept ++
        '/' :: (after.rdropWhile isOuter).filter isKept := by
  have hfirst : (before ++ '/' :: after).dropWhile isOuter =
      before.dropWhile isOuter ++ '/' :: after := by
    rw [List.dropWhile_append]
    split
    · rename_i hnone
      rw [List.isEmpty_iff.1 hnone, List.nil_append, List.dropWhile_cons_of_neg (by decide)]
    · rfl
  rw [clean_eq, hfirst, Text.rdropWhile_append_cons (by decide), List.filter_append,
    List.filter_cons_of_pos (by decide)]

private theorem clean_append (hscheme : IsWebScheme scheme) (behind after : List Char) :
    clean (scheme.toList ++ ':' :: (behind ++ '/' :: after)) =
      scheme.toList ++ ':' :: (behind.filter isKept ++
        '/' :: (after.rdropWhile isOuter).filter isKept) := by
  have hfirst : (scheme.toList ++ ':' :: behind).dropWhile isOuter =
      scheme.toList ++ ':' :: behind := by
    obtain rfl | rfl := hscheme <;> rfl
  have hkept : scheme.toList.filter isKept = scheme.toList := by
    obtain rfl | rfl := hscheme <;> rfl
  rw [← List.cons_append, ← List.append_assoc, clean_append_slash, hfirst, List.filter_append,
    hkept, List.filter_cons_of_pos (by decide), List.append_assoc, List.cons_append]

private theorem origin?_of_toList (hscheme : IsWebScheme scheme)
    (htext : text.toList = scheme.toList ++ ':' :: (behind ++ '/' :: after)) :
    origin? isHost text = spelledOrigin? isHost scheme (spelledAuthority (behind.filter isKept ++
      '/' :: (after.rdropWhile isOuter).filter isKept)) := by
  apply origin?_of_scheme?
  rw [htext, clean_append hscheme, scheme?_append hscheme]

theorem spelledAuthority_append_of_mem {c : Char} (hc : c ∈ before) (hslash : isSlash c = false)
    (after : List Char) :
    spelledAuthority (before ++ '/' :: after) = spelledAuthority before := by
  have hleft : (before.dropWhile isSlash).isEmpty = false := by
    rw [List.isEmpty_eq_false_iff, Ne, List.dropWhile_eq_nil_iff]
    intro hall
    rw [hall c hc] at hslash
    cases hslash
  have hend : ('/' :: after).takeWhile (fun c => !isEnd c) = [] := rfl
  rw [spelledAuthority, spelledAuthority, List.dropWhile_append, hleft, if_neg Bool.false_ne_true,
    List.takeWhile_append, hend, List.append_nil]
  split
  · rename_i hlength
    rw [(List.takeWhile_prefix _).eq_of_length hlength]
  · rfl

theorem spelledAuthority_append_of_forall (h : ∀ c ∈ before, isSlash c = true)
    (after : List Char) :
    spelledAuthority (before ++ '/' :: after) = spelledAuthority after := by
  rw [spelledAuthority, List.dropWhile_append_of_pos h]
  rfl

end Url

namespace Client

open Url

structure Begins (base scheme : String) (rest : List Char) : Prop where
  isWebScheme : IsWebScheme scheme
  text : base.toList = scheme.toList ++ ':' :: '/' :: '/' :: rest

/-- A client whose paths all lead to the host of its base. -/
def KeepsHost (c : Client) (isHost : List Char → Bool) : Prop :=
  ∀ path, origin? isHost (c.url path) = origin? isHost (c.baseUrl ++ "/")

variable {isHost : List Char → Bool} {base scheme : String} {rest : List Char}

private theorem hasWebScheme_iff :
    hasWebScheme base = true ↔ ∃ scheme rest, Begins base scheme rest := by
  rw [hasWebScheme, Bool.or_eq_true, List.isPrefixOf_iff_prefix, List.isPrefixOf_iff_prefix]
  constructor
  · rintro (⟨rest, hrest⟩ | ⟨rest, hrest⟩)
    · exact ⟨"http", rest, Or.inl rfl, hrest.symm⟩
    · exact ⟨"https", rest, Or.inr rfl, hrest.symm⟩
  · rintro ⟨scheme, rest, rfl | rfl, hrest⟩
    · exact Or.inl ⟨rest, hrest.symm⟩
    · exact Or.inr ⟨rest, hrest.symm⟩

private theorem toList_baseUrl_ofBase (h : Begins base scheme rest) :
    (ofBase base).baseUrl.toList =
      scheme.toList ++ ':' :: ('/' :: '/' :: rest).rdropWhile (· = '/') := by
  rw [ofBase, Text.toList_dropTrailingSlashes, h.text, Text.rdropWhile_append_cons (by decide)]

theorem ofSetting_eq_ok_iff {c : Client} :
    ofSetting base = .ok c ↔
      (∃ scheme rest, Begins base scheme rest) ∧ c.baseUrl = Text.dropTrailingSlashes base := by
  rw [← hasWebScheme_iff, ofSetting]
  cases hasWebScheme base with
  | false => exact ⟨nofun, fun h => nomatch h.1⟩
  | true =>
    constructor
    · intro h
      rw [← Except.ok.inj h]
      exact ⟨rfl, rfl⟩
    · rintro ⟨-, hbase⟩
      obtain ⟨baseUrl⟩ := c
      subst hbase
      rfl

theorem ofSetting_eq_error_iff {cause : ApiError} :
    ofSetting base = .error cause ↔ (¬ ∃ scheme rest, Begins base scheme rest) ∧
      cause = .configuration "Base URL must start with http:// or https://" := by
  rw [← hasWebScheme_iff, ofSetting]
  cases hasWebScheme base with
  | false =>
    constructor
    · intro h
      exact ⟨nofun, (Except.error.inj h).symm⟩
    · rintro ⟨-, rfl⟩
      rfl
  | true => exact ⟨nofun, fun h => absurd rfl h.1⟩

/-- A character other than a slash keeps the two slashes before it. -/
theorem begins_ofBase_iff (h : Begins base scheme rest) :
    (∃ first more, Begins (ofBase base).baseUrl scheme (first :: more)) ↔
      ∃ c ∈ rest, c ≠ '/' := by
  have hlist := toList_baseUrl_ofBase h
  constructor
  · rintro ⟨first, more, -, hbegins⟩
    rw [hlist, List.append_cancel_left_eq, List.cons_inj_right] at hbegins
    by_contra hnone
    push Not at hnone
    have hslashes : ∀ c ∈ '/' :: '/' :: rest, decide (c = '/') = true := by
      simpa using hnone
    rw [List.rdropWhile_eq_nil_iff.2 hslashes] at hbegins
    cases hbegins
  · rintro ⟨c, hc, hne⟩
    obtain ⟨before, after, rfl⟩ := List.append_of_mem hc
    have hkept := Text.rdropWhile_append_cons (p := (· = '/')) (by simpa using hne)
      ('/' :: '/' :: before) after
    simp only [List.cons_append] at hkept
    rw [hkept] at hlist
    obtain ⟨first, more, hcons⟩ := List.exists_cons_of_ne_nil
      (List.append_ne_nil_of_right_ne_nil before
        (List.cons_ne_nil c (after.rdropWhile (· = '/'))))
    exact ⟨first, more, h.isWebScheme, by rw [hlist, hcons]⟩

theorem toList_url (c : Client) (path : String) :
    (c.url path).toList = c.baseUrl.toList ++ '/' :: path.toList.dropWhile (· = '/') := by
  simp [url, Text.dropLeadingSlashes, String.toList_append]

/-- Blanks that do not count and trailing slashes are no part of a host. -/
theorem exists_not_slash_iff (rest : List Char) :
    (∃ c ∈ (('/' :: '/' :: rest).rdropWhile (· = '/')).filter isKept, isSlash c = false) ↔
      ∃ c ∈ rest, c ∉ ['/', '\\', '\t', '\n', '\r'] := by
  refine exists_congr fun c => ?_
  by_cases hc : c = '/'
  · simp [hc, isSlash]
  · rw [List.mem_filter, Text.mem_rdropWhile_iff (by simpa using hc)]
    simp only [List.mem_cons, hc, false_or, List.not_mem_nil, or_false, not_or, isKept, isSlash,
      ne_eq, decide_eq_true_eq, decide_eq_false_iff_not]
    constructor
    · rintro ⟨⟨hmem, hkept⟩, hback⟩
      exact ⟨hmem, hback, hkept⟩
    · rintro ⟨hmem, hback, hkept⟩
      exact ⟨⟨hmem, hkept⟩, hback⟩

theorem keepsHost_ofBase_iff (hhosts : TellsHosts isHost) (h : Begins base scheme rest) :
    (ofBase base).KeepsHost isHost ↔ ∃ c ∈ rest, c ∉ ['/', '\\', '\t', '\n', '\r'] := by
  generalize hbehind : ('/' :: '/' :: rest).rdropWhile (· = '/') = behind
  have hbase := toList_baseUrl_ofBase h
  rw [hbehind] at hbase
  have hroot : ((ofBase base).baseUrl ++ "/").toList =
      scheme.toList ++ ':' :: (behind ++ ['/']) := by
    simp [String.toList_append, hbase]
  have hurl : ∀ path, ((ofBase base).url path).toList =
      scheme.toList ++ ':' :: (behind ++ '/' :: path.toList.dropWhile (· = '/')) := by
    intro path
    simp [toList_url, hbase]
  rw [← exists_not_slash_iff, hbehind]
  constructor
  · intro hkeeps
    by_contra hnone
    have hslashes : ∀ c ∈ behind.filter isKept, isSlash c = true := by
      simpa using hnone
    have hsame := hkeeps "localhost"
    rw [origin?_of_toList h.isWebScheme (hurl "localhost"), origin?_of_toList h.isWebScheme hroot,
      spelledAuthority_append_of_forall hslashes, spelledAuthority_append_of_forall hslashes]
      at hsame
    have hnamed : spelledOrigin? isHost scheme "localhost".toList =
        some (scheme, "localhost".toLower) := if_pos hhosts.localhost
    have hroot : spelledOrigin? isHost scheme [] = none := if_neg (by simp [hostOf, hhosts.empty])
    exact absurd (hnamed.symm.trans (hsame.trans hroot)) nofun
  · rintro ⟨c, hc, hslash⟩ path
    rw [origin?_of_toList h.isWebScheme (hurl path), origin?_of_toList h.isWebScheme hroot,
      spelledAuthority_append_of_mem hc hslash, spelledAuthority_append_of_mem hc hslash]

/-- A configured address is accepted when it starts with a scheme of the web and two
slashes.  The client that keeps it without trailing slashes has one more character
behind these exactly when there was one other than a slash, and its paths do not
name the host exactly when there was one that is neither a slash, a backslash, a
tab nor a line break. -/
theorem base_address_kept_iff (isHost : List Char → Bool) (hhosts : TellsHosts isHost)
    (base : String) :
    (∀ c, ofSetting base = .ok c ↔
      (∃ scheme rest, Begins base scheme rest) ∧ c.baseUrl = Text.dropTrailingSlashes base) ∧
    (∀ cause, ofSetting base = .error cause ↔ (¬ ∃ scheme rest, Begins base scheme rest) ∧
      cause = .configuration "Base URL must start with http:// or https://") ∧
    ∀ c scheme rest, ofSetting base = .ok c → Begins base scheme rest →
      ((∃ first more, Begins c.baseUrl scheme (first :: more)) ↔ ∃ d ∈ rest, d ≠ '/') ∧
      (c.KeepsHost isHost ↔ ∃ d ∈ rest, d ∉ ['/', '\\', '\t', '\n', '\r']) := by
  refine ⟨fun _ => ofSetting_eq_ok_iff, fun _ => ofSetting_eq_error_iff, ?_⟩
  intro c scheme rest hok hbegins
  obtain rfl : c = ofBase base := congrArg Client.mk (ofSetting_eq_ok_iff.1 hok).2
  exact ⟨begins_ofBase_iff hbegins, keepsHost_ofBase_iff hhosts hbegins⟩

/-- Names of letters with dots between them; a test for hosts as far as it goes. -/
def isDotted (host : List Char) : Bool :=
  (host.splitOn '.').all fun label => !label.isEmpty && label.all Char.isAlpha

theorem base_address_kept_slashedHost :
    TellsHosts isDotted ∧
      ofSetting "https://x.y//" = .ok ⟨"https://x.y"⟩ ∧
      Begins "https://x.y//" "https" ['x', '.', 'y', '/', '/'] ∧
      KeepsHost ⟨"https://x.y"⟩ isDotted := by
  have hhosts : TellsHosts isDotted := ⟨by decide +kernel, by decide +kernel⟩
  have hok : ofSetting "https://x.y//" = .ok ⟨"https://x.y"⟩ := by rfl
  have hbegins : Begins "https://x.y//" "https" ['x', '.', 'y', '/', '/'] := ⟨Or.inr rfl, rfl⟩
  obtain ⟨-, -, hkept⟩ := base_address_kept_iff isDotted hhosts "https://x.y//"
  exact ⟨hhosts, hok, hbegins,
    (hkept _ _ _ hok hbegins).2.2 ⟨'x', List.mem_cons_self, by decide⟩⟩

/-- A scheme and its slashes alone are accepted, and lose the slashes. -/
theorem base_address_lost :
    ofSetting "http://" = .ok ⟨"http:"⟩ ∧
      (¬ ∃ scheme first more, Begins "http:" scheme (first :: more)) ∧
      origin? isDotted (url ⟨"http:"⟩ "/merchants") = some ("http", "merchants") := by
  have hok : ofSetting "http://" = .ok ⟨"http:"⟩ := by rfl
  refine ⟨hok, ?_, by decide +kernel⟩
  rintro ⟨scheme, first, more, rfl | rfl, htext⟩
  · cases htext
  · cases htext

end Client

end MerchantApi.Http
