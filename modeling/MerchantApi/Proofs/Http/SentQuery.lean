import MerchantApi.Proofs.Http.Form
import MerchantApi.Proofs.Http.ValidBase
import MerchantApi.Proofs.Outcome
/-!
# Queries that are sent

The pairs of a request are written behind the first question mark of what is asked
of the server, and nothing else is.  There is no question mark before it: the path
of an address spells every question mark as an escape.
-/

namespace MerchantApi.Http

namespace Url

/-! ## Characters of a path -/

private theorem ne_question_of_mem_escape {c d : Char} (h : d ∈ escape c) : d ≠ '?' := by
  obtain ⟨b, -, hd⟩ := List.mem_flatMap.1 h
  exact (Form.ne_of_mem_percent hd).2.2

private theorem ne_question_of_mem_escapeText {cs : List Char} {d : Char}
    (h : d ∈ escapeText escapedInPath cs) : d ≠ '?' := by
  obtain ⟨c, -, hd⟩ := List.mem_flatMap.1 h
  cases hescaped : escapedInPath c with
  | true =>
    rw [hescaped, if_pos rfl] at hd
    exact ne_question_of_mem_escape hd
  | false =>
    rw [hescaped, if_neg Bool.false_ne_true, List.mem_singleton] at hd
    rintro rfl
    subst hd
    cases hescaped

private theorem not_mem_intercalate {c mark : Char} (hmark : c ≠ mark) {segments : List (List Char)}
    (h : ∀ segment ∈ segments, c ∉ segment) : c ∉ List.intercalate [mark] segments := by
  induction segments with
  | nil => exact List.not_mem_nil
  | cons segment rest ih =>
    obtain ⟨hsegment, hrest⟩ := List.forall_mem_cons.1 h
    cases rest with
    | nil => rwa [List.intercalate_singleton]
    | cons next rest =>
      rw [List.intercalate_cons_cons, List.append_assoc, List.mem_append, List.singleton_append,
        List.mem_cons]
      rintro (hmem | hmem | hmem)
      · exact hsegment hmem
      · exact hmark hmem
      · exact ih hrest hmem

private theorem question_not_mem_normalPath (cs : List Char) : '?' ∉ (normalPath cs).toList := by
  rw [normalPath, String.toList_ofList, List.mem_cons]
  rintro (hslash | hmem)
  · cases hslash
  · refine not_mem_intercalate (by decide) ?_ hmem
    exact List.forall_mem_map.2 fun segment _ hmem => ne_question_of_mem_escapeText hmem rfl

/-! ## Reading addresses -/

variable {isHost : List Char → Bool} {text : String} {u : Url}

/-- The path and the query of an address are read from what stands behind its authority,
up to the first question mark and from there on. -/
theorem exists_behind_of_parse? (h : parse? isHost text = some u) :
    ∃ behind, behind ⊆ text.toList ∧ u.path = normalPath (behind.takeWhile (· ≠ '?')) ∧
      (behind.dropWhile (· ≠ '?') = [] → u.query = none) := by
  rw [parse?, Option.bind_eq_bind, Option.bind_eq_some_iff] at h
  obtain ⟨⟨scheme, rest⟩, hscheme, h⟩ := h
  obtain ⟨name, -, hclean⟩ := exists_of_scheme? hscheme
  have hrest : rest ⊆ text.toList := fun c hc => clean_subset _ (by simp [hclean, hc])
  dsimp only at h
  split at h
  · cases h
  · obtain rfl := Option.some.inj h
    refine ⟨_, fun c hc => hrest ?_, rfl, fun hnone => ?_⟩
    · exact (List.dropWhile_sublist _).subset
        ((List.dropWhile_sublist _).subset ((List.takeWhile_sublist _).subset hc))
    · dsimp only
      rw [hnone]

theorem query_eq_none_of_parse? (h : parse? isHost text = some u)
    (hmark : '?' ∉ text.toList) : u.query = none := by
  obtain ⟨behind, hbehind, -, hquery⟩ := exists_behind_of_parse? h
  exact hquery (Text.dropWhile_ne_eq_nil fun hmem => hmark (hbehind hmem))

theorem question_not_mem_path_of_parse? (h : parse? isHost text = some u) :
    '?' ∉ u.path.toList := by
  obtain ⟨behind, -, hpath, -⟩ := exists_behind_of_parse? h
  rw [hpath]
  exact question_not_mem_normalPath _

/-! ## Targets -/

def queryOf? (target : String) : Option String :=
  match target.toList.dropWhile (· ≠ '?') with
  | [] => none
  | _ :: query => some (String.ofList query)

theorem queryOf?_target (hpath : '?' ∉ u.path.toList) :
    queryOf? u.target = u.query := by
  cases hquery : u.query with
  | none => rw [target, hquery, queryOf?, Text.dropWhile_ne_eq_nil hpath]
  | some query =>
    have hlist : (u.path ++ "?" ++ query).toList = u.path.toList ++ '?' :: query.toList := by
      simp [String.toList_append]
    rw [target, hquery, queryOf?, hlist, Text.dropWhile_ne_append_cons hpath]
    exact congrArg some String.ofList_toList

theorem path_withPairs (u : Url) (pairs : List (String × String)) :
    (u.withPairs pairs).path = u.path := by
  rw [withPairs]
  split
  · rfl
  · rfl

/-- Pairs that are appended are read behind those that are there. -/
theorem decode_withPairs (u : Url) (pairs : List (String × String)) :
    Form.decode ((u.withPairs pairs).query.getD "") = Form.decode (u.query.getD "") ++ pairs := by
  have hempty : Form.decode "" = [] := rfl
  rw [withPairs]
  split
  · rename_i hnone
    rw [List.isEmpty_iff.1 hnone, List.append_nil]
  · dsimp only [Option.getD_some]
    cases u.query with
    | none => rw [List.nil_append, Form.decode_encode]; rfl
    | some query =>
      dsimp only [Option.getD_some]
      split
      · rename_i hquery
        rw [hquery, hempty, List.nil_append, List.nil_append, Form.decode_encode]
      · rw [List.append_assoc, List.singleton_append, Form.decode_append, Form.decode_encode,
          String.ofList_toList]

theorem query_withPairs_eq_none_iff {pairs : List (String × String)} :
    (u.withPairs pairs).query = none ↔ u.query = none ∧ pairs = [] := by
  rw [withPairs]
  split
  · rename_i hnone
    rw [List.isEmpty_iff.1 hnone, eq_self, and_true]
  · rename_i hsome
    refine iff_of_false nofun fun h => hsome ?_
    rw [h.2, List.isEmpty_nil]

end Url

/-- A network with what was sent over it. -/
def Network.recorded {σ : Type} (network : Network σ) : Network (σ × List Outgoing) where
  isHost := network.isHost
  boundary state := network.boundary state.1
  deliver state message :=
    let (response, next) := network.deliver state.1 message
    (response, next, state.2 ++ [message])

namespace Client

open Url

variable {σ : Type}

variable {network : Network σ} {state : σ} {isHost : List Char → Bool} {boundary : String}
  {c : Client} {r : Request} {message : Outgoing} {address : String}

theorem prepare_eq_ok_iff :
    c.prepare isHost boundary r = .ok message ↔ ∃ content u,
      encodeBody boundary r.body = .ok content ∧ parse? isHost (c.url r.path) = some u ∧
      message = ⟨r.method, u.withPairs r.query, content.1, content.2⟩ := by
  rw [prepare, Outcome.bind_eq_ok_iff]
  refine exists_congr fun content => ?_
  cases hu : parse? isHost (c.url r.path) with
  | none =>
    constructor
    · rintro ⟨-, hnone⟩
      cases hnone
    · rintro ⟨u, -, hnone, -⟩
      cases hnone
  | some u =>
    constructor
    · rintro ⟨hcontent, hmessage⟩
      exact ⟨u, hcontent, rfl, (Except.ok.inj hmessage).symm⟩
    · rintro ⟨other, hcontent, hother, rfl⟩
      obtain rfl := Option.some.inj hother
      exact ⟨hcontent, rfl⟩

theorem sent_of_prepare_eq_error {cause : ApiError}
    (h : c.prepare network.isHost (network.boundary state) r = .error cause) :
    (c.transport network.recorded (state, []) r).2.2 = [] := by
  have hprepare : c.prepare network.recorded.isHost (network.recorded.boundary (state, [])) r =
      .error cause := h
  rw [transport, hprepare]

/-- A message that is prepared is sent once, whatever becomes of it. -/
theorem sent_of_prepare_eq_ok
    (h : c.prepare network.isHost (network.boundary state) r = .ok message) :
    (c.transport network.recorded (state, []) r).2.2 = [message] := by
  have hprepare : c.prepare network.recorded.isHost (network.recorded.boundary (state, [])) r =
      .ok message := h
  rw [transport, hprepare]
  dsimp only [Network.recorded]
  cases (network.deliver state message).1 with
  | error reason => rfl
  | ok response =>
    dsimp only
    split
    · rfl
    · rfl

private theorem question_not_mem_url (haddress : '?' ∉ address.toList) {path : String}
    (hpath : '?' ∉ path.toList) : '?' ∉ ((ofBase address).url path).toList := by
  rw [toList_url, ofBase, Text.toList_dropTrailingSlashes, List.mem_append, List.mem_cons]
  rintro (hmem | hmem | hmem)
  · exact haddress ((List.rdropWhile_prefix _ _).subset hmem)
  · cases hmem
  · exact hpath ((List.dropWhile_sublist _).subset hmem)

theorem query_of_prepare_eq_ok (h : c.prepare isHost boundary r = .ok message)
    (hurl : '?' ∉ (c.url r.path).toList) :
    (queryOf? message.url.target = none ↔ r.query = []) ∧
      Form.decode ((queryOf? message.url.target).getD "") = r.query := by
  obtain ⟨content, u, -, hu, rfl⟩ := prepare_eq_ok_iff.1 h
  have hnone := query_eq_none_of_parse? hu hurl
  have hpath : '?' ∉ (u.withPairs r.query).path.toList := by
    rw [path_withPairs]
    exact question_not_mem_path_of_parse? hu
  dsimp only
  rw [queryOf?_target hpath, decode_withPairs, query_withPairs_eq_none_iff, hnone]
  exact ⟨and_iff_right rfl, rfl⟩

/-- The pairs of a request reach the server as they are, in their order, and without
pairs there is no query: whatever is sent asks for them, and a message is sent when the
base is an address and the body can be encoded. -/
theorem query_reaches_server_unaltered (network : Network σ) (state : σ) (r : Request)
    (haddress : '?' ∉ address.toList) (hpath : '?' ∉ r.path.toList) :
    let sent := ((ofBase address).transport network.recorded (state, []) r).2.2
    (∀ message ∈ sent,
      (queryOf? message.url.target = none ↔ r.query = []) ∧
      Form.decode ((queryOf? message.url.target).getD "") = r.query) ∧
    (network.isHost [] = false → (ofBase address).HasAddress network.isHost →
      ∀ content, encodeBody (network.boundary state) r.body = .ok content →
        ∃ message, sent = [message]) := by
  intro sent
  constructor
  · intro message hmessage
    cases hprepare :
        (ofBase address).prepare network.isHost (network.boundary state) r with
    | error cause =>
      rw [show sent = [] from sent_of_prepare_eq_error hprepare] at hmessage
      cases hmessage
    | ok other =>
      rw [show sent = [other] from sent_of_prepare_eq_ok hprepare, List.mem_singleton] at hmessage
      subst hmessage
      exact query_of_prepare_eq_ok hprepare (question_not_mem_url haddress hpath)
  · intro hempty hbase content hcontent
    obtain ⟨u, hu⟩ := hbase.exists_parse?_url hempty r.path
    exact ⟨_, sent_of_prepare_eq_ok (prepare_eq_ok_iff.2 ⟨content, u, hcontent, hu, rfl⟩)⟩

def markedFilters : Request :=
  { method := "GET"
    path := "/merchants"
    query := [("name", "a&b=c"), ("name", "50% + 5?"), ("", ""), ("größe", "日本")]
    body := .empty }

theorem query_reaches_server_unaltered_markedFilters :
    '?' ∉ "https://shop.example/api/".toList ∧ '?' ∉ markedFilters.path.toList ∧
    ∃ message,
      ((ofBase "https://shop.example/api/").transport Network.unreachable.recorded ((), [])
        markedFilters).2.2 = [message] ∧
      queryOf? message.url.target ≠ none ∧
      Form.decode ((queryOf? message.url.target).getD "") = markedFilters.query := by
  have haddress : '?' ∉ "https://shop.example/api/".toList := by decide +kernel
  have hpath : '?' ∉ markedFilters.path.toList := by decide +kernel
  have hbase : (ofBase "https://shop.example/api/").HasAddress Network.unreachable.isHost :=
    (hasAddress_ofBase_iff (by rintro c ⟨⟩; rfl)).2 (by decide +kernel)
  obtain ⟨hquery, hsent⟩ :=
    query_reaches_server_unaltered Network.unreachable () markedFilters haddress hpath
  obtain ⟨message, hmessage⟩ := hsent rfl hbase _ rfl
  obtain ⟨hnone, hdecoded⟩ := hquery message (hmessage ▸ List.mem_singleton_self message)
  exact ⟨haddress, hpath, message, hmessage, (by simpa [markedFilters] using hnone), hdecoded⟩

end Client

end MerchantApi.Http
