import MerchantApi.CommandLine.Program
import MerchantApi.Proofs.Json.Nesting
/-!
# Groups as a printed document

The document of a list of groups is read as that list, whatever their texts and
numbers are.
-/

namespace MerchantApi

open Json Json.Reader

variable (style : Style) (indent depth : Nat)

theorem Label.reads_read (l : Label) :
    Reads (Label.read (depth + 1)) (chars style indent l.document) l := by
  have hfills : Fills Label.textSlots depth style (indent + 1) .empty l.members
      ⟨some l.placeholder, some l.displayText, some l.labelId⟩ :=
    .member rfl rfl ((reads_text l.placeholder).map fun s => Label.Draft.mk (some s) none none) <|
    .member rfl rfl ((reads_text l.displayText).map fun s =>
      Label.Draft.mk (some l.placeholder) (some s) none) <|
    .member rfl rfl ((reads_int64 l.labelId).map fun n =>
      Label.Draft.mk (some l.placeholder) (some l.displayText) (some n)) <|
    .done rfl
  have hrecord := reads_record style indent shape.title shape.arity hfills
  refine ⟨hrecord.opens, fun blanks rest hblanks hrest => ?_⟩
  have hread := hrecord.reads blanks rest hblanks hrest
  rw [Label.read, Label.document, hread]
  rfl

theorem Group.reads_read (g : Group) :
    Reads (Group.read (depth + 3)) (chars style indent g.document) g := by
  have hlabels : List.Forall₂ (fun x l => Reads (Label.read (depth + 1))
      (chars style (indent + 1 + 1) x) l) (g.labels.map Label.document) g.labels := by
    rw [List.forall₂_map_left_iff, List.forall₂_same]
    exact fun l _ => l.reads_read style _ depth
  have hfills : Fills Group.textSlots (depth + 2) style (indent + 1) .empty
      [("field", .string g.field), ("mappings", .array (g.labels.map Label.document))]
      ⟨some g.field, some g.labels⟩ :=
    .member rfl rfl ((reads_text g.field).map fun s => Group.Draft.mk (some s) none) <|
    .member rfl rfl ((reads_list style (indent + 1) hlabels).map fun ls =>
      Group.Draft.mk (some g.field) (some ls)) <|
    .done rfl
  have hrecord := reads_record style indent shape.title shape.arity hfills
  refine ⟨hrecord.opens, fun blanks rest hblanks hrest => ?_⟩
  have hread := hrecord.reads blanks rest hblanks hrest
  rw [Group.read, Group.document, hread]
  rfl

/-- The printed document of groups is read as the groups. -/
theorem Group.parseList_printed (groups : List Group) :
    parseList (CommandLine.printed (CommandLine.groupsDocument groups)) = .ok groups := by
  have hgroups : List.Forall₂ (fun x g => Reads (Group.read 126) (chars .indented 1 x) g)
      (groups.map Group.document) groups := by
    rw [List.forall₂_map_left_iff, List.forall₂_same]
    exact fun g _ => g.reads_read .indented 1 123
  exact readAll_line (reads_list .indented 0 hgroups)

end MerchantApi
