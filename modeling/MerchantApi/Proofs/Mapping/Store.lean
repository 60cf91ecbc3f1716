import MerchantApi.Proofs.Entity.Stability
import MerchantApi.Proofs.EntityService.PagedList
import MerchantApi.Proofs.Mapping.Group
import MerchantApi.Proofs.Refusals
/-!
# Changes that the next load shows

A backend keeps mappings in a row and serves them in pages.  Groups that are
saved replace those of their fields there, and fields that are deleted leave no
mappings behind.  Through the service this is seen as a change of the groups that
are loaded: those of other fields stay as they are and where they are.
-/

namespace MerchantApi

/-! ## Mappings that are kept -/

namespace Mapping

theorem eq_of_normalMembers_json {m : Mapping} {next : Members Json}
    (h : Entity.normalMembers Mapping (Entity.json m) = .ok next) : next = Entity.record m :=
  (Entity.normalForm_record m).eq_of_normalMembers (by simp [Entity.relations]) h

theorem eq_of_hydrate_json {m other : Mapping} (h : Entity.hydrate (Entity.json m) = .ok other) :
    other = m := by
  obtain ⟨next, hnext, hread⟩ := Outcome.bind_eq_ok_iff.1 h
  rw [eq_of_normalMembers_json hnext, Entity.ofRecord_record] at hread
  exact (Except.ok.inj hread).symm

theorem hydrate_json_of_no_dates {m : Mapping} (hcreated : m.created = none)
    (hupdated : m.updated = none) : Entity.hydrate (Entity.json m) = .ok m := by
  have hdateless : ∀ t ∈ m.instants, t.HasPlainYear := by
    intro t ht
    rw [instants, hcreated, hupdated] at ht
    cases ht
  exact EntityKind.hydrate_json_of_hasPlainYear .mapping hdateless

end Mapping

/-! ## Acknowledgements are read back -/

theorem SaveAck.ofReply_json (a : SaveAck) : ofReply a.json = .ok a := by
  have hcount : shape.putMember ⟨"", 0⟩ ("count", .ofUInt64 a.count) = .ok ⟨"", a.count⟩ := by
    change (Json.asUInt64 (.ofUInt64 a.count)).map _ = _
    rw [Json.asUInt64_ofUInt64]
    rfl
  have hread : shape.ofValue ⟨"", 0⟩ a.json = .ok a := by
    change (shape.putMember ⟨"", 0⟩ _ >>= fun draft =>
      [("message", .string a.message)].foldlM shape.putMember draft) >>= shape.complete = _
    rw [hcount]
    rfl
  rw [ofReply, acknowledgement, hread]
  rfl

theorem DeleteAck.ofReply_json (a : DeleteAck) : ofReply a.json = .ok a := by
  have hread : shape.ofValue ⟨0⟩ a.json = .ok a := by
    change ((Json.asUInt64 (.ofUInt64 a.deleted)).map _ >>= pure) >>= shape.complete = _
    rw [Json.asUInt64_ofUInt64]
    rfl
  rw [ofReply, acknowledgement, hread]
  rfl

/-! ## A backend that keeps mappings -/

structure StoredMapping where
  mapping : Mapping
  readable : ∃ m : Mapping, Entity.hydrate (Entity.json mapping) = .ok m

namespace StoredMapping

def json (r : StoredMapping) : Json := Entity.json r.mapping

theorem hydrate_json (r : StoredMapping) : Entity.hydrate r.json = .ok r.mapping := by
  obtain ⟨m, hm⟩ := r.readable
  obtain rfl : m = r.mapping := Mapping.eq_of_hydrate_json hm
  exact hm

end StoredMapping

/-- A backend for mappings: the record that it makes of a label of a field, and
what it answers to groups that are saved and to fields that are deleted. -/
structure MappingBackend where
  record : List StoredMapping → String → Label → StoredMapping
  fieldName_record : ∀ kept field label, (record kept field label).mapping.fieldName = field
  label_record : ∀ kept field label, (record kept field label).mapping.label = label
  saveAck : List StoredMapping → List Group → SaveAck
  deleteAck : List StoredMapping → List String → DeleteAck

namespace MappingBackend

open Activity

def append (b : MappingBackend) (field : String) (kept : List StoredMapping) (label : Label) :
    List StoredMapping :=
  kept ++ [b.record kept field label]

def saveGroup (b : MappingBackend) (kept : List StoredMapping) (g : Group) : List StoredMapping :=
  g.labels.foldl (b.append g.field) (kept.filter fun r => r.mapping.fieldName ≠ g.field)

def save (b : MappingBackend) (kept : List StoredMapping) (groups : List Group) :
    List StoredMapping :=
  groups.foldl b.saveGroup kept

def delete (kept : List StoredMapping) (fields : List String) : List StoredMapping :=
  kept.filter fun r => r.mapping.fieldName ∉ fields

def bodyMember (request : Request) (name : String) : Json :=
  (request.jsonBody.bind fun body => body.member? name).getD .null

/-- Answer to a change, which is not made when the request cannot be read. -/
def answer (kept : List StoredMapping) :
    Except Json.Mismatch (Json × List StoredMapping) → Reply × List StoredMapping
  | .ok (reply, next) => (.ok reply, next)
  | .error cause => (.error (.decode (.mismatch cause)), kept)

def transport (b : MappingBackend) : Transport (List StoredMapping) := fun kept request =>
  match request.method, request.path with
  | "GET", "/merchant-mappings" =>
    ((EntityService.pagingBackend none (kept.map StoredMapping.json) () request).1, kept)
  | "POST", "/merchant-mappings/bulk_save" =>
    answer kept ((Group.listOfValue (bodyMember request "fieldMappings")).map fun groups =>
      ((b.saveAck kept groups).json, b.save kept groups))
  | "DELETE", "/merchant-mappings/bulk_delete" =>
    answer kept ((Json.asList Json.asText (bodyMember request "fields")).map fun fields =>
      ((b.deleteAck kept fields).json, delete kept fields))
  | _, _ => (.error (.notFound request.label), kept)

def groups (kept : List StoredMapping) : List Group :=
  Group.ofMappings (kept.map StoredMapping.mapping)

variable (b : MappingBackend) {kept : List StoredMapping}

/-! ## What changes do to the groups -/

private theorem exists_foldl_append (field : String) (labels : List Label)
    (kept : List StoredMapping) :
    ∃ later, labels.foldl (b.append field) kept = kept ++ later ∧
      (∀ m ∈ later.map StoredMapping.mapping, m.fieldName = field) ∧
      (later.map StoredMapping.mapping).map Mapping.label = labels := by
  induction labels generalizing kept with
  | nil => exact ⟨[], by simp⟩
  | cons label labels ih =>
    obtain ⟨later, hkept, hfield, hlabels⟩ := ih (b.append field kept label)
    refine ⟨b.record kept field label :: later, ?_, ?_, ?_⟩
    · rw [List.foldl_cons, hkept, append, List.append_assoc, List.singleton_append]
    · exact List.forall_mem_cons.2 ⟨b.fieldName_record kept field label, hfield⟩
    · rw [List.map_cons, List.map_cons, hlabels, b.label_record]

private theorem map_mapping_filter (keep : Mapping → Bool) (kept : List StoredMapping) :
    (kept.filter fun r => keep r.mapping).map StoredMapping.mapping =
      (kept.map StoredMapping.mapping).filter keep := by
  rw [List.filter_map]
  rfl

private theorem groups_saveGroup (kept : List StoredMapping) (g : Group) :
    groups (b.saveGroup kept g) = Group.replace (groups kept) g := by
  obtain ⟨later, hkept, hfield, hlabels⟩ := b.exists_foldl_append g.field g.labels
    (kept.filter fun r => r.mapping.fieldName ≠ g.field)
  rw [saveGroup, hkept, groups, List.map_append, map_mapping_filter fun m => m.fieldName ≠ g.field]
  exact Group.ofMappings_filter_append hfield hlabels _

/-- Saving groups one after the other replaces one group after the other. -/
theorem groups_save (kept : List StoredMapping) (saved : List Group) :
    groups (b.save kept saved) = saved.foldl Group.replace (groups kept) := by
  induction saved generalizing kept with
  | nil => rfl
  | cons g saved ih =>
    rw [List.foldl_cons, ← groups_saveGroup]
    exact ih (b.saveGroup kept g)

theorem groups_delete (kept : List StoredMapping) (fields : List String) :
    groups (delete kept fields) = (groups kept).filter fun g => g.field ∉ fields := by
  rw [delete, groups, map_mapping_filter fun m => m.fieldName ∉ fields]
  exact Group.ofMappings_filter (fun name => name ∉ fields) _

/-! ## Operations over the backend -/

section Operations

variable (describe : List Mapping.Violation → String) (size : Nat) (counter : Counter)
  (kept : List StoredMapping)

theorem actionPath_standard (name : String) (hname : '{' ∉ name.toList) :
    ((MappingService.standard describe).withPageSize size).entities.actionPath name =
      .ok ("/merchant-mappings/" ++ name) := by
  have hbase : Text.dropTrailingSlashes (EndpointSet.rest MappingService.base).getAll.source ++
      "/" = "/merchant-mappings/" := by decide
  have hsource : ((EndpointSet.rest MappingService.base).action name).source =
      "/merchant-mappings/" ++ name := by
    rw [EndpointSet.action, hbase]
  have hplain : '{' ∉ ((EndpointSet.rest MappingService.base).action name).source.toList := by
    rw [hsource, String.toList_append, List.mem_append, not_or]
    exact ⟨by decide, hname⟩
  rw [← hsource]
  exact Template.resolve_of_not_mem hplain _

theorem run_action {α : Type} {name path : String} (hname : '{' ∉ name.toList)
    (hpath : "/merchant-mappings/" ++ name = path) (request : String → Request)
    {read : Json → Except ApiError α} {reply : Json} {next : List StoredMapping} {a : α}
    (hreply : b.transport kept (request path) = (.ok reply, next)) (hread : read reply = .ok a) :
    let s := (MappingService.standard describe).withPageSize size
    run b.transport (Call.ofExcept (s.entities.actionPath name) >>= fun path =>
        s.entities.execute (request path) >>= fun reply =>
          Call.ofExcept (read reply)).run counter kept =
      ⟨.ok a, [(.request (request path), counter.count + 1)], counter.acquire.release, next⟩ := by
  intro s
  rw [show s.entities.actionPath name = _ from actionPath_standard describe size name hname, hpath,
    Call.run_ofExcept_ok_bind, EntityService.run_execute_read, hreply]
  exact congrArg (Run.mk · _ _ _) hread

theorem run_bulkSave (saved : List Group) :
    let s := (MappingService.standard describe).withPageSize size
    run b.transport (s.bulkSave saved).run counter kept =
      ⟨.ok (b.saveAck kept saved),
        [(.request ((Request.post "/merchant-mappings/bulk_save").withJson
          (MappingService.saveBody saved)), counter.count + 1)],
        counter.acquire.release, b.save kept saved⟩ := by
  have hreply : b.transport kept ((Request.post "/merchant-mappings/bulk_save").withJson
      (MappingService.saveBody saved)) = (.ok (b.saveAck kept saved).json, b.save kept saved) := by
    change answer kept ((Group.listOfValue (.array (saved.map Group.json))).map _) = _
    rw [Group.listOfValue_map_json]
    rfl
  exact b.run_action describe size counter kept (by decide) (by decide)
    (fun path => (Request.post path).withJson (MappingService.saveBody saved)) hreply
    (SaveAck.ofReply_json _)

theorem run_bulkDeleteByFields (fields : List String) :
    let s := (MappingService.standard describe).withPageSize size
    run b.transport (s.bulkDeleteByFields fields).run counter kept =
      ⟨.ok (b.deleteAck kept fields),
        [(.request ((Request.delete "/merchant-mappings/bulk_delete").withJson
          (.object [("fields", .array (fields.map .string))])), counter.count + 1)],
        counter.acquire.release, delete kept fields⟩ := by
  have htext : ∀ text, Json.asText (.string text) = .ok text := fun _ => rfl
  have hreply : b.transport kept ((Request.delete "/merchant-mappings/bulk_delete").withJson
      (.object [("fields", .array (fields.map .string))])) =
        (.ok (b.deleteAck kept fields).json, delete kept fields) := by
    change answer kept ((Json.asList Json.asText (.array (fields.map .string))).map _) = _
    rw [Json.asList_map_eq_ok htext]
    rfl
  exact b.run_action describe size counter kept (by decide) (by decide)
    (fun path => (Request.delete path).withJson (.object [("fields", .array (fields.map .string))]))
    hreply (DeleteAck.ofReply_json _)

/-- Loading shows the groups of what is kept and changes nothing. -/
theorem run_loadAll (hpages : kept.length / max size 1 < Page.last) :
    let s := (MappingService.standard describe).withPageSize size
    let r := run b.transport s.loadAll.run counter kept
    r.result = .ok (groups kept) ∧ r.state = kept := by
  intro s r
  have hreads : (kept.map StoredMapping.json).mapM Entity.hydrate =
      .ok (kept.map StoredMapping.mapping) := by
    rw [Outcome.mapM_eq_ok_iff, List.forall₂_map_left_iff, List.forall₂_map_right_iff]
    exact List.forall₂_same.2 fun r _ => r.hydrate_json
  have hpaged : s.entities.Serves (EntityService.pagingBackend none
      (kept.map StoredMapping.json)) "/merchant-mappings" [] (kept.map StoredMapping.json) :=
    EntityService.serves_pagingBackend _ nofun
  have hserves : s.entities.Serves (frozen b.transport kept) "/merchant-mappings" []
      (kept.map StoredMapping.json) :=
    fun state number hpos hlast => hpaged state number hpos hlast
  rw [← List.length_map (f := StoredMapping.json)] at hpages
  obtain ⟨next, hload⟩ := EntityService.run_loadAll_of_listing
    (EntityService.listing_standard hreads hpages hserves) counter ()
  -- Pages are read from a backend that stands still; so it does, as only lists are asked for.
  have hsame : ∀ seen ∈ (run (frozen b.transport kept) s.loadAll.run counter ()).log,
      ∀ request, seen.1 = .request request → (b.transport kept request).2 = kept := by
    rw [hload]
    intro seen hseen request hrequest
    obtain ⟨listed, hlisted, rfl⟩ := List.mem_map.1 hseen
    obtain ⟨number, -, rfl⟩ := List.mem_map.1 hlisted
    cases hrequest
    rfl
  have hrun : r = _ := run_of_frozen b.transport hsame
  rw [hrun, hload]
  exact ⟨rfl, rfl⟩

end Operations

/-- After groups of distinct fields are saved, the next load shows them at the
end, the empty ones left out, and the loaded groups of other fields as they were.
After fields are deleted it shows the loaded groups without theirs.  Loading ends
only if there are numbers for all pages. -/
theorem loadAll_after_bulk_change (describe : List Mapping.Violation → String) (size : Nat)
    (counter : Counter) (kept : List StoredMapping)
    (hpages : kept.length / max size 1 < Page.last) :
    let s := (MappingService.standard describe).withPageSize size
    let before := run b.transport s.loadAll.run counter kept
    ∃ loaded, before.result = .ok loaded ∧
      (∀ groups : List Group, (groups.map Group.field).Nodup →
        (b.save kept groups).length / max size 1 < Page.last →
          let saved := run b.transport (s.bulkSave groups).run before.counter before.state
          let after := run b.transport s.loadAll.run saved.counter saved.state
          saved.result = .ok (b.saveAck kept groups) ∧
          after.result = .ok (loaded.filter (fun g => g.field ∉ groups.map Group.field) ++
            groups.filter fun g => g.labels ≠ [])) ∧
      ∀ fields : List String,
        let deleted := run b.transport (s.bulkDeleteByFields fields).run before.counter before.state
        let after := run b.transport s.loadAll.run deleted.counter deleted.state
        deleted.result = .ok (b.deleteAck kept fields) ∧
        after.result = .ok (loaded.filter fun g => g.field ∉ fields) := by
  intro s before
  obtain ⟨hloaded, hkept⟩ := b.run_loadAll describe size counter kept hpages
  have hstate : before.state = kept := hkept
  refine ⟨groups kept, hloaded, fun saved hdistinct hsaved => ?_, fun fields => ?_⟩
  · have hrun := b.run_bulkSave describe size before.counter before.state saved
    rw [hstate] at hrun ⊢
    rw [hrun, ← Group.foldl_replace hdistinct, ← groups_save]
    exact ⟨rfl, (b.run_loadAll describe size _ _ hsaved).1⟩
  · have hrun := b.run_bulkDeleteByFields describe size before.counter before.state fields
    have hfewer : (delete kept fields).length / max size 1 < Page.last :=
      Nat.lt_of_le_of_lt (Nat.div_le_div_right (List.length_filter_le _ _)) hpages
    rw [hstate] at hrun ⊢
    rw [hrun, ← groups_delete]
    exact ⟨rfl, (b.run_loadAll describe size _ _ hfewer).1⟩

def counting : MappingBackend where
  record kept field label :=
    { mapping :=
        { Mapping.ofLabel field label.placeholder label.displayText label.labelId with
          id := kept.foldl (fun greatest r => max greatest r.mapping.id) 0 + 1 }
      readable := ⟨_, Mapping.hydrate_json_of_no_dates rfl rfl⟩ }
  fieldName_record _ _ _ := rfl
  label_record _ _ _ := rfl
  saveAck _ groups :=
    ⟨"Mappings saved successfully", .ofNat (groups.map fun g => g.labels.length).sum⟩
  deleteAck _ fields := ⟨.ofNat fields.length⟩

def twoFields : List StoredMapping :=
  [("A", "p1"), ("B", "q1"), ("A", "p2")].foldl
    (fun kept entry => counting.append entry.1 kept ⟨entry.2, "text", 1⟩) []

theorem loadAll_after_bulk_change_twoFields :
    let s := (MappingService.standard fun _ => "out of bounds").withPageSize 2
    let before := run counting.transport s.loadAll.run .fresh twoFields
    let saved := run counting.transport (s.bulkSave [⟨"A", [⟨"p3", "text", 2⟩]⟩, ⟨"C", []⟩]).run
      before.counter before.state
    let deleted := run counting.transport (s.bulkDeleteByFields ["B", "D"]).run before.counter
      before.state
    before.result =
        .ok [⟨"A", [⟨"p1", "text", 1⟩, ⟨"p2", "text", 1⟩]⟩, ⟨"B", [⟨"q1", "text", 1⟩]⟩] ∧
      (run counting.transport s.loadAll.run saved.counter saved.state).result =
        .ok [⟨"B", [⟨"q1", "text", 1⟩]⟩, ⟨"A", [⟨"p3", "text", 2⟩]⟩] ∧
      (run counting.transport s.loadAll.run deleted.counter deleted.state).result =
        .ok [⟨"A", [⟨"p1", "text", 1⟩, ⟨"p2", "text", 1⟩]⟩] := by
  intro s before saved deleted
  have hgroups : groups twoFields =
      [⟨"A", [⟨"p1", "text", 1⟩, ⟨"p2", "text", 1⟩]⟩, ⟨"B", [⟨"q1", "text", 1⟩]⟩] := by rfl
  have hpages : twoFields.length / max 2 1 < Page.last := by decide
  have hbefore : before.result = .ok (groups twoFields) :=
    (counting.run_loadAll _ 2 .fresh twoFields hpages).1
  obtain ⟨loaded, hloaded, hsave, hdelete⟩ := counting.loadAll_after_bulk_change
    (fun _ => "out of bounds") 2 .fresh twoFields hpages
  have hsame : loaded = _ := Except.ok.inj (hloaded.symm.trans (hbefore.trans (congrArg _ hgroups)))
  subst hsame
  exact ⟨hloaded, (hsave _ (by decide) (by decide)).2, (hdelete _).2⟩

end MappingBackend

end MerchantApi
