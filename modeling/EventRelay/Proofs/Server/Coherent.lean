/-
# What a server keeps at work

The log of a server holds the events that were published, and a session is ended exactly if it is
off the list (`Server.Coherent`).  Every request keeps this, and so does every step of a poll: none
of them writes to the log but a publication, and the registry keeps to it by itself.  It therefore
holds of a host at every instant, whatever happened before (`Host.coherent_settleAt`).
-/

import EventRelay.Proofs.Log.Ring
import EventRelay.Proofs.Session.Ending
import EventRelay.Server.Host

namespace EventRelay

/-- Whether the log holds what was published, and the sessions that have ended are off the list. -/
structure Server.Coherent (s : Server) : Prop where
  stored : ∃ events, s.log.Holds events
  settled : s.registry.Settled

namespace Server.Coherent

variable {s : Server}

theorem new {config : ServerConfig} {epoch : Epoch} (hs : Server.new config epoch = .ok s) :
    s.Coherent := by
  unfold Server.new at hs
  cases hlog : Log.new config.bufferCapacity with
  | error fault =>
    rw [hlog] at hs
    cases hs
  | ok log =>
    rw [hlog] at hs
    cases hs
    exact ⟨⟨[], .new hlog⟩, fun e he => absurd he List.not_mem_nil⟩

theorem withRegistry (h : s.Coherent) {r : Registry} (hr : r.Settled) : (s.withRegistry r).Coherent :=
  ⟨h.stored, hr⟩

/-! ### Requests -/

theorem probeSession (h : s.Coherent) (current : Option SessionId) :
    (s.probeSession current).1.Coherent := by
  unfold Server.probeSession
  split
  · exact h
  · split
    · exact h
    · rename_i source _
      have hlookup := Registry.settled_lookup (s := source) h.settled s.now
      split <;> rename_i heq <;> rw [heq] at hlookup <;> exact h.withRegistry hlookup

theorem openSession (h : s.Coherent) (fresh : SourceId) (current : Option SessionId) :
    (s.openSession fresh current).1.Coherent := by
  have hprobed := h.probeSession current
  unfold Server.openSession
  split <;> rename_i heq <;> rw [heq] at hprobed
  · exact hprobed
  · exact hprobed.withRegistry (Registry.settled_enlist hprobed.settled rfl)

theorem closeSession (h : s.Coherent) (current : Option SessionId) :
    (s.closeSession current).1.Coherent := by
  unfold Server.closeSession
  split
  · exact h
  · split
    · exact h
    · rename_i source _
      have hended := Registry.settled_invalidate (s := source) h.settled
      split <;> rename_i heq <;> rw [heq] at hended <;> exact h.withRegistry hended

theorem subscribe (h : s.Coherent) (current : Option SessionId) (t : TypeId) :
    (s.subscribe current t).1.Coherent := by
  unfold Server.subscribe
  split
  · exact h
  · exact h.withRegistry (Registry.settled_subscribe h.settled s.now t)

theorem unsubscribe (h : s.Coherent) (current : Option SessionId) (t : TypeId) :
    (s.unsubscribe current t).1.Coherent := by
  unfold Server.unsubscribe
  split
  · exact h
  · exact h.withRegistry (Registry.settled_unsubscribe h.settled s.now t)

/-- A publication is stored behind the others. -/
theorem publish (h : s.Coherent) (stamp : Stamp) (t : TypeId) (payload : Json.Value) :
    (s.publish stamp t payload).Coherent := by
  obtain ⟨events, hevents⟩ := h.stored
  exact ⟨⟨_, hevents.publish stamp t payload⟩, h.settled⟩

theorem sweep (h : s.Coherent) : s.sweep.1.Coherent :=
  h.withRegistry (Registry.settled_sweep h.settled s.now)

/-! ### Polls -/

theorem dropPoll (h : s.Coherent) (ticket : Nat) : (s.dropPoll ticket).Coherent := by
  unfold Server.dropPoll
  split
  · exact h
  · exact ⟨h.stored, Registry.settled_release h.settled ticket⟩

theorem beginPoll (h : s.Coherent) (ticket : Nat) (current : Option SessionId) :
    (s.beginPoll ticket current).1.Coherent := by
  unfold Server.beginPoll
  split
  · exact h
  · rename_i source _
    have hlookup := Registry.settled_lookup (s := source) h.settled s.now
    split <;> rename_i heq <;> rw [heq] at hlookup
    · exact h.withRegistry hlookup
    · exact ⟨h.stored, Registry.settled_enqueue hlookup ticket⟩

theorem resync (h : s.Coherent) (source : SourceId) (fault : Fault) :
    (s.resync source fault).Coherent := by
  unfold Server.resync
  split
  · exact h.withRegistry (Registry.settled_modifySession h.settled fun _ => rfl)
  · exact h

theorem consume (h : s.Coherent) (source : SourceId) (d : Drain) :
    (s.consume source d).1.Coherent := by
  unfold Server.consume
  split
  · exact h
  · split
    · exact h
    · have hupdated : (s.registry.modifySession source (·.update d.cursor)).Settled :=
        Registry.settled_modifySession h.settled fun _ => rfl
      exact h.withRegistry (Registry.settled_modify (f := (·.touch s.now)) hupdated fun _ he => he)

theorem finishWait (h : s.Coherent) (source : SourceId) (last : Int) :
    (s.finishWait source last).1.Coherent := by
  unfold Server.finishWait
  split
  · exact h.resync source _
  · exact h.consume source _

theorem stepWaiting (h : s.Coherent) (source : SourceId) (last : Int) (deadline : Nat) (w : Wait) :
    (s.stepWaiting source last deadline w).1.Coherent := by
  unfold Server.stepWaiting
  split
  · exact h.finishWait source last
  · split <;> exact h

theorem takeTurn (h : s.Coherent) (source : SourceId) : (s.takeTurn source).1.Coherent := by
  unfold Server.takeTurn
  split
  · exact h
  · simp only
    split
    · exact h.resync source _
    · exact h.stepWaiting source _ _ _

/-- **A step of a poll** leaves the log as it is, and keeps the sessions settled. -/
theorem advancePoll (h : s.Coherent) (ticket : Nat) : (s.advancePoll ticket).1.Coherent := by
  unfold Server.advancePoll
  split
  · exact h
  · rename_i p _
    split
    rename_i s' result heq
    have hturned : s'.Coherent := by
      split at heq
      · split at heq
        · have hturn := h.takeTurn p.source
          rwa [heq] at hturn
        · cases heq
          exact h
      · rename_i last deadline w _
        have hstep := h.stepWaiting p.source last deadline w
        rwa [heq] at hstep
    cases result with
    | inl phase => exact ⟨hturned.stored, hturned.settled⟩
    | inr answer => exact hturned.dropPoll ticket

end Server.Coherent

/-! ### A server on its clock -/

namespace Host

variable {h : Host}

theorem coherent_advanceEach (hs : h.server.Coherent) (tickets : List Nat) :
    (advanceEach tickets h).server.Coherent := by
  induction tickets generalizing h with
  | nil => exact hs
  | cons ticket rest ih =>
    have hadvanced := hs.advancePoll ticket
    unfold advanceEach
    split <;> rename_i heq <;> rw [heq] at hadvanced <;> exact ih hadvanced

theorem coherent_rounds (hs : h.server.Coherent) (n : Nat) : (rounds n h).server.Coherent := by
  induction n generalizing h with
  | zero => exact hs
  | succ n ih => exact ih (coherent_advanceEach hs _)

theorem coherent_sweepDue (hs : h.server.Coherent) : h.sweepDue.server.Coherent := by
  have hsweeps : ∀ (turns : List Unit) (s : Server), s.Coherent →
      (turns.foldl (fun s _ => s.sweep.1) s).Coherent := by
    intro turns
    induction turns with
    | nil => exact fun _ hs => hs
    | cons _ turns ih => exact fun s hs => ih _ hs.sweep
  exact hsweeps _ _ hs

/-- **What becomes due** keeps a server coherent: sweeps, and polls that go on. -/
theorem coherent_settleAt (hs : h.server.Coherent) (t : Nat) :
    (Timeline.settleAt t h).server.Coherent :=
  coherent_rounds (h := sweepDue { h with server := { h.server with now := t } })
    (coherent_sweepDue ⟨hs.stored, hs.settled⟩) _

theorem coherent_poll (hs : h.server.Coherent) (current : Option SessionId) :
    (h.poll current).1.server.Coherent := by
  have hbegun := hs.beginPoll h.ticket current
  unfold poll
  simp only
  split <;> rename_i heq <;> rw [heq] at hbegun <;> exact hbegun

end Host
end EventRelay
