import MerchantApi.Http.Client
import MerchantApi.Proofs.EndpointSet
/-!
# Stray slashes

Slashes at the end of a base address and at the ends of the base of a resource
are the same to every address that is built of them: the templates of the
resource differ in nothing but the slashes that they open with, and those are
dropped where the path meets the address.
-/

namespace MerchantApi

namespace Template

variable {params : String → Option String}

private theorem pieces_slashes_append (n : Nat) (source : String) :
    (Template.mk (Text.slashes n ++ source)).pieces =
      List.replicate n (.char '/') ++ (Template.mk source).pieces := by
  rw [pieces, pieces, String.toList_append, Text.toList_slashes]
  induction n with
  | zero => rfl
  | succ n ih =>
    have hslash : Piece.hole? ('/' :: (List.replicate n '/' ++ source.toList)) = none :=
      Piece.hole?_of_ne (by decide) _
    rw [List.replicate_succ, List.cons_append, Piece.scan_cons_of_none hslash, ih,
      List.replicate_succ, List.cons_append]

private theorem placeholders_slashes_append (n : Nat) (source : String) :
    (Template.mk (Text.slashes n ++ source)).placeholders = (Template.mk source).placeholders := by
  have hslashes : namesOf (List.replicate n (.char '/')) = [] := by
    rw [← List.map_replicate, namesOf_chars]
  rw [placeholders, pieces_slashes_append, namesOf_append, hslashes, List.nil_append,
    List.filter_eq_self.2]
  · rfl
  · exact fun name _ => decide_eq_true List.not_mem_nil

theorem resolve_slashes_append_eq_ok {n : Nat} {source path : String}
    (h : (Template.mk source).resolve params = .ok path) :
    (Template.mk (Text.slashes n ++ source)).resolve params = .ok (Text.slashes n ++ path) := by
  have hslashes : Piece.Replaced params (List.replicate n (.char '/')) (List.replicate n '/') := by
    induction n with
    | zero => exact .nil
    | succ n ih => exact .char '/' ih
  rw [resolve_eq_ok_iff] at h ⊢
  rw [pieces_slashes_append, String.toList_append, Text.toList_slashes, Piece.replaced_append_iff]
  exact ⟨_, _, hslashes, h, rfl⟩

theorem resolve_slashes_append_eq_error {n : Nat} {source name : String}
    (h : (Template.mk source).resolve params = .error (.missingParameter name source)) :
    (Template.mk (Text.slashes n ++ source)).resolve params =
      .error (.missingParameter name (Text.slashes n ++ source)) := by
  obtain ⟨found, hfound, hcause⟩ := resolve_eq_error_iff_find?.1 h
  obtain rfl : name = found := (ApiError.missingParameter.inj hcause).1
  refine resolve_eq_error_iff_find?.2 ⟨name, ?_, rfl⟩
  rwa [placeholders_slashes_append]

end Template

namespace EndpointSet

/-- The places below a resource: its five operations and its actions. -/
inductive Place where
  | create
  | getAll
  | get
  | update
  | delete
  | action (name : String)

def template (endpoints : EndpointSet) : Place → Template
  | .create => endpoints.create
  | .getAll => endpoints.getAll
  | .get => endpoints.get
  | .update => endpoints.update
  | .delete => endpoints.delete
  | .action name => endpoints.action name

/-- Slashes at the ends of a base add slashes in front of its templates at most. -/
theorem exists_template_stray (base : String) (before after : Nat) (place : Place) :
    ∃ n, (rest (Text.slashes before ++ base ++ Text.slashes after)).template place =
      ⟨Text.slashes n ++ ((rest base).template place).source⟩ := by
  obtain ⟨n, hbase⟩ := Text.exists_dropTrailingSlashes_slashes_append before base
  have hcollection : Text.dropTrailingSlashes (Text.slashes before ++ base ++ Text.slashes after) =
      Text.slashes n ++ Text.dropTrailingSlashes base := by
    rw [Text.dropTrailingSlashes_append_slashes, hbase]
  generalize Text.slashes before ++ base ++ Text.slashes after = stray at hcollection ⊢
  refine ⟨n, ?_⟩
  cases place with
  | create | getAll => simp only [template, rest, hcollection]
  | get | update | delete => simp only [template, rest, hcollection, String.append_assoc]
  | action name =>
    simp only [template, rest, action, Text.dropTrailingSlashes_idem]
    simp only [hcollection, String.append_assoc]

end EndpointSet

namespace Http.Client

/-- An address and a path joined by one slash: neither does what is left of the
address end in a slash, nor does what is left of the path begin with one. -/
def JoinedBySlash (address path joined : String) : Prop :=
  ∃ left right behind before,
    address.toList = left ++ List.replicate behind '/' ∧ left.getLast? ≠ some '/' ∧
    path.toList = List.replicate before '/' ++ right ∧ right.head? ≠ some '/' ∧
    joined.toList = left ++ '/' :: right

theorem url_joinedBySlash (address path : String) :
    JoinedBySlash address path ((ofBase address).url path) := by
  obtain ⟨behind, haddress⟩ := Text.exists_dropTrailingSlashes_append address
  obtain ⟨before, hpath⟩ := Text.exists_append_dropLeadingSlashes path
  refine ⟨_, _, behind, before, haddress, Text.getLast?_dropTrailingSlashes address, hpath,
    Text.head?_dropLeadingSlashes path, ?_⟩
  rw [url, String.toList_append, String.toList_append, List.append_assoc]
  rfl

private theorem url_stray (address path : String) (behind before : Nat) :
    (ofBase (address ++ Text.slashes behind)).url (Text.slashes before ++ path) =
      (ofBase address).url path := by
  rw [url, url, ofBase, ofBase, Text.dropTrailingSlashes_append_slashes,
    Text.dropLeadingSlashes_slashes_append]

/-- Slashes behind an address and around the base of a resource change no address
of the resource, whatever its parameters are, and there is one slash between the
two.  When a parameter is missing, it is the same one. -/
theorem stray_slashes_make_no_difference (address base : String) (behind before after : Nat)
    (params : String → Option String) (place : EndpointSet.Place) :
    let plain := (EndpointSet.rest base).template place
    let stray := (EndpointSet.rest (Text.slashes before ++ base ++ Text.slashes after)).template
      place
    (∃ path other, plain.resolve params = .ok path ∧ stray.resolve params = .ok other ∧
      (ofBase (address ++ Text.slashes behind)).url other = (ofBase address).url path ∧
      JoinedBySlash address path ((ofBase address).url path)) ∨
    ∃ missing, plain.resolve params = .error (.missingParameter missing plain.source) ∧
      stray.resolve params = .error (.missingParameter missing stray.source) := by
  intro plain stray
  obtain ⟨n, hstray⟩ := EndpointSet.exists_template_stray base before after place
  rw [show stray = _ from hstray]
  cases hpath : plain.resolve params with
  | ok path =>
    refine Or.inl ⟨path, _, rfl, Template.resolve_slashes_append_eq_ok hpath, url_stray _ _ _ _,
      url_joinedBySlash address path⟩
  | error cause =>
    obtain ⟨missing, -, rfl⟩ := Template.resolve_eq_error_iff_find?.1 hpath
    exact Or.inr ⟨missing, rfl, Template.resolve_slashes_append_eq_error hpath⟩

end Http.Client

end MerchantApi
