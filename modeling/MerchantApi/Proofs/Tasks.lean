import MerchantApi.Proofs.Guards
/-!
# Tasks of a service

Everything that a service can be asked to do, as data.  What a service does for
a task is one operation, which holds one guard while it is seen, or two where
mappings are loaded in groups.
-/

namespace MerchantApi

namespace EntityService

inductive Task (E : Type) where
  | create (e : E)
  | update (e : E)
  | get (id : UInt64)
  | delete (id : UInt64)
  | bulkDelete (ids : List UInt64)
  | list (query : E) (params : Members String) (page : Page)
  | importFile (file : ImportFile) (headers : Members String)
  | execute (request : Request)

inductive Answer (E : Type) where
  | entity (e : E)
  | entities (es : List E)
  | reply (value : Json)

variable {E : Type} [Entity E]

def perform (s : EntityService E) : Task E → Call (Answer E)
  | .create e => do pure (.entity (← s.create e))
  | .update e => do pure (.entity (← s.update e))
  | .get id => do pure (.entity (← s.get id))
  | .delete id => do pure (.reply (← s.delete id))
  | .bulkDelete ids => do pure (.reply (← s.bulkDelete ids))
  | .list query params page => do pure (.entities (← s.getAll query params page))
  | .importFile file headers => do pure (.entities (← s.importFile file headers))
  | .execute request => do pure (.reply (← s.execute request))

theorem nested_perform (s : EntityService E) (task : Task E) : (s.perform task).Nested 1 := by
  cases task with
  | create e => exact (s.nested_create e).bind fun _ => Call.nested_pure _
  | update e => exact (s.nested_update e).bind fun _ => Call.nested_pure _
  | get id => exact (s.nested_get id).bind fun _ => Call.nested_pure _
  | delete id => exact (s.nested_delete id).bind fun _ => Call.nested_pure _
  | bulkDelete ids => exact (s.nested_bulkDelete ids).bind fun _ => Call.nested_pure _
  | list query params page =>
    exact (s.nested_getAll query params page).bind fun _ => Call.nested_pure _
  | importFile file headers =>
    exact (s.nested_importFile file headers).bind fun _ => Call.nested_pure _
  | execute request => exact (s.nested_execute request).bind fun _ => Call.nested_pure _

end EntityService

namespace MappingService

inductive Task where
  | entities (task : EntityService.Task Mapping)
  | loadAll
  | bulkSave (groups : List Group)
  | bulkDeleteByFields (fields : List String)

inductive Answer where
  | entities (answer : EntityService.Answer Mapping)
  | groups (groups : List Group)
  | saved (ack : SaveAck)
  | deleted (ack : DeleteAck)

def perform (s : MappingService) : Task → Call Answer
  | .entities task => do pure (.entities (← s.entities.perform task))
  | .loadAll => do pure (.groups (← s.loadAll))
  | .bulkSave groups => do pure (.saved (← s.bulkSave groups))
  | .bulkDeleteByFields fields => do pure (.deleted (← s.bulkDeleteByFields fields))

def Task.depth : Task → Nat
  | .loadAll => 2
  | .entities _ | .bulkSave _ | .bulkDeleteByFields _ => 1

theorem nested_perform (s : MappingService) (task : Task) :
    (s.perform task).Nested task.depth := by
  cases task with
  | entities task => exact (s.entities.nested_perform task).bind fun _ => Call.nested_pure _
  | loadAll => exact s.nested_loadAll.bind fun _ => Call.nested_pure _
  | bulkSave groups => exact (s.nested_bulkSave groups).bind fun _ => Call.nested_pure _
  | bulkDeleteByFields fields =>
    exact (s.nested_bulkDeleteByFields fields).bind fun _ => Call.nested_pure _

end MappingService

/-- The activities of operations, whatever becomes of their results. -/
inductive IsOperation {α : Type} : Activity α → Prop where
  | entities {E : Type} [Entity E] (s : EntityService E) (task : EntityService.Task E)
      (render : Except ApiError (EntityService.Answer E) → α) :
      IsOperation ((s.perform task).run.bind fun result => .finish (render result))
  | mappings (s : MappingService) (task : MappingService.Task)
      (render : Except ApiError MappingService.Answer → α) :
      IsOperation ((s.perform task).run.bind fun result => .finish (render result))

theorem Task.depth_pos (task : MappingService.Task) : 0 < task.depth := by
  cases task <;> exact Nat.succ_pos _

/-- An operation is seen only while it holds a guard, and ends without one. -/
theorem IsOperation.disciplined {α : Type} {x : Activity α} (h : IsOperation x) :
    x.Disciplined (0 < ·) 0 0 := by
  cases h with
  | entities s task render =>
    exact (s.nested_perform task (0 < ·) 0 Nat.one_pos).bind fun _ => rfl
  | mappings s task render =>
    refine (s.nested_perform task (0 < ·) 0 ?_).bind fun _ => rfl
    rw [Nat.zero_add]
    exact Task.depth_pos task

end MerchantApi
