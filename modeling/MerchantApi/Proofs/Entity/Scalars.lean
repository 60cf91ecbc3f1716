import MerchantApi.Entity.Scalars
import MerchantApi.Proofs.Entity.Lawful
/-!
# Parameters of an entity

The parameters that an entity gives are the texts of its scalar members, name
by name, and those that filter a list are among them.  Both are in order, as
the record of the entity is.
-/

namespace MerchantApi

namespace Json

variable {members : Members Json}

theorem sorted_scalars (h : members.Sorted) : (scalars members).Sorted := by
  rw [scalars, Members.Sorted, List.pairwise_filterMap]
  refine h.imp fun {a b} hlt x hx y hy => ?_
  obtain ⟨_, -, rfl⟩ := Option.map_eq_some_iff.1 hx
  obtain ⟨_, -, rfl⟩ := Option.map_eq_some_iff.1 hy
  exact hlt

private theorem mem_scalars {name text : String} :
    (name, text) ∈ scalars members ↔ ∃ j, (name, j) ∈ members ∧ j.scalarText? = some text := by
  simp only [scalars, List.mem_filterMap, Option.map_eq_some_iff, Prod.mk.injEq, Prod.exists]
  constructor
  · rintro ⟨_, j, hmem, _, htext, rfl, rfl⟩
    exact ⟨j, hmem, htext⟩
  · rintro ⟨j, hmem, htext⟩
    exact ⟨name, j, hmem, text, htext, rfl, rfl⟩

theorem get?_scalars (h : members.Sorted) (name : String) :
    Members.get? (scalars members) name = (Members.get? members name).bind scalarText? := by
  apply Option.ext
  intro text
  rw [(sorted_scalars h).get?_eq_some_iff, mem_scalars, Option.bind_eq_some_iff]
  simp only [h.get?_eq_some_iff]

theorem scalarText?_ofUInt64 (n : UInt64) : (ofUInt64 n).scalarText? = some (toString n.toNat) := by
  have hchars : (WideInt.ofUInt64 n).chars = Nat.toDigits 10 n.toNat := by
    rw [WideInt.chars, WideInt.ofUInt64, if_neg (Int.not_lt.2 (Int.natCast_nonneg _))]
    rfl
  rw [ofUInt64, scalarText?, Number.text, Number.chars, hchars, Nat.toString_eq_ofList_toDigits]

end Json

namespace Entity

variable {E : Type} [Entity E]

/-- The fields of an entity type are in increasing order of their names, as the
members of every object are. -/
class Ordered (E : Type) [Entity E] : Prop where
  ordered : (fields (E := E)).Pairwise fun a b => a.name < b.name

instance [Lawful E] : Ordered E := ⟨Lawful.ordered⟩

variable [Ordered E]

theorem Ordered.record (e : E) : (record e).Sorted := by
  rw [Entity.record, Members.Sorted, List.pairwise_map]
  exact Ordered.ordered

theorem get?_params (e : E) (name : String) :
    Members.get? (params e) name = (Members.get? (record e) name).bind Json.scalarText? :=
  Json.get?_scalars (Ordered.record e) name

theorem sorted_setFields (e : E) : (setFields e).Sorted :=
  Json.sorted_scalars ((Ordered.record e).filter _)

end Entity

end MerchantApi
