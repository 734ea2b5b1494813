/-
# Who is handed an event

Handlers have numbers of their own (`Bus.Numbered`): no two have the same, and a number is
never given again.  So of a batch each handler is handed exactly the events of its type,
each once and in the order of the batch (`Bus.deliveries_of_mem`).
-/

import EventRelay.Client.Bus
import Mathlib.Data.List.Nodup

namespace EventRelay
namespace Bus

variable {b : Bus}

/-- Whether no two handlers have one number, and the next number is nobody's. -/
structure Numbered (b : Bus) : Prop where
  once : (b.handlers.map Handler.id).Nodup
  issued : ∀ h ∈ b.handlers, h.id < b.nextHandler

namespace Numbered

theorem new (fingerprint : Fingerprint) (keys : KeyOrder) : (Bus.new fingerprint keys).Numbered :=
  ⟨List.nodup_nil, by simp [Bus.new]⟩

/-- Handlers go. -/
theorem sublist (h : b.Numbered) {b' : Bus} (hhandlers : b'.handlers.Sublist b.handlers)
    (hnext : b'.nextHandler = b.nextHandler) : b'.Numbered :=
  ⟨h.once.sublist (hhandlers.map _), fun a ha => hnext ▸ h.issued a (hhandlers.subset ha)⟩

/-- A handler comes. -/
theorem attach (h : b.Numbered) (t : TypeId) (recipient : String) :
    (b.attach t recipient).Numbered := by
  have hfree : b.nextHandler ∉ b.handlers.map Handler.id := by
    intro hin
    obtain ⟨a, ha, heq⟩ := List.mem_map.1 hin
    exact absurd (h.issued a ha) (by omega)
  refine ⟨?_, fun a ha => ?_⟩
  · rw [Bus.attach, List.map_append]
    exact List.concat_eq_append ▸ h.once.concat hfree
  · rcases List.mem_append.1 ha with hold | hnew
    · exact Nat.lt_succ_of_lt (h.issued a hold)
    · rw [List.mem_singleton.1 hnew]
      exact Nat.lt_succ_self _

/-- The handlers of one number: the one that has it. -/
theorem filter_id (h : b.Numbered) {a : Handler} (ha : a ∈ b.handlers) :
    b.handlers.filter (fun h => h.id = a.id) = [a] := by
  have hall : ∀ h' ∈ b.handlers.filter (fun h => h.id = a.id), h' = a := by
    intro h' hin
    obtain ⟨hmem, hid⟩ := List.mem_filter.1 hin
    exact List.inj_on_of_nodup_map h.once hmem ha (of_decide_eq_true hid)
  have hnodup : (b.handlers.filter (fun h => h.id = a.id)).Nodup := (List.Nodup.of_map _ h.once).filter _
  have hmem : a ∈ b.handlers.filter (fun h => h.id = a.id) := List.mem_filter.2 ⟨ha, by simp⟩
  exact List.perm_singleton.1 ((List.perm_ext_iff_of_nodup hnodup (List.nodup_singleton a)).2
    fun h' => ⟨fun hin => List.mem_singleton.2 (hall h' hin), fun hin => List.mem_singleton.1 hin ▸ hmem⟩)

end Numbered

/-- What a handler is handed of one event. -/
theorem filter_handlersOf (h : b.Numbered) {a : Handler} (ha : a ∈ b.handlers) (t : TypeId) :
    (b.handlersOf t).filter (fun h => h.id = a.id) = if a.typeId = t then [a] else [] := by
  rw [handlersOf, List.filter_filter]
  have hcomm : b.handlers.filter (fun h => decide (h.id = a.id) && decide (h.typeId = t)) =
      (b.handlers.filter (fun h => h.id = a.id)).filter (fun h => h.typeId = t) := by
    rw [List.filter_filter]
    exact List.filter_congr fun _ _ => Bool.and_comm ..
  rw [hcomm, h.filter_id ha]
  by_cases ht : a.typeId = t <;> simp [ht]

/-- What handlers are handed of one event. -/
def deliveriesOf (b : Bus) (e : Event) : List Delivery :=
  (b.handlersOf e.typeId).map fun h => ⟨h.id, h.recipient, e⟩

theorem map_deliveriesOf (b : Bus) (e : Event) (n : Nat) :
    ((b.deliveriesOf e).filter (·.handler = n)).map Delivery.event =
      ((b.handlersOf e.typeId).filter (·.id = n)).map fun _ => e := by
  rw [deliveriesOf, List.filter_map, List.map_map]
  rfl

theorem deliveries_eq (b : Bus) (batch : Batch) :
    b.deliveries batch = batch.events.flatMap b.deliveriesOf := rfl

/-- **A handler is handed the events of its type**, each once and in order. -/
theorem deliveries_of_mem (h : b.Numbered) {a : Handler} (ha : a ∈ b.handlers) (batch : Batch) :
    ((b.deliveries batch).filter (·.handler = a.id)).map Delivery.event =
      batch.events.filter fun e => e.typeId = a.typeId := by
  rw [deliveries_eq]
  induction batch.events with
  | nil => rfl
  | cons e es ih =>
    rw [List.flatMap_cons, List.filter_append, List.map_append, ih, map_deliveriesOf,
      filter_handlersOf h ha]
    by_cases ht : a.typeId = e.typeId
    · simp [ht]
    · simp [ht, Ne.symm ht]

/-- Nobody is handed an event twice, or out of order. -/
theorem deliveries_sublist (h : b.Numbered) (batch : Batch) (n : Nat) :
    (((b.deliveries batch).filter (·.handler = n)).map Delivery.event).Sublist batch.events := by
  by_cases hn : ∃ a ∈ b.handlers, a.id = n
  · obtain ⟨a, ha, rfl⟩ := hn
    rw [deliveries_of_mem h ha]
    exact List.filter_sublist
  · have hnone : (b.deliveries batch).filter (·.handler = n) = [] := by
      rw [List.filter_eq_nil_iff]
      intro d hd
      obtain ⟨e, -, hd⟩ := List.mem_flatMap.1 hd
      obtain ⟨a, ha, rfl⟩ := List.mem_map.1 hd
      exact fun heq => hn ⟨a, (List.mem_filter.1 ha).1, of_decide_eq_true heq⟩
    rw [hnone]
    exact List.nil_sublist _

end Bus
end EventRelay
