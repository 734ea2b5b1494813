/-
# What a move tells the listeners

Only requests that go on tell the listeners anything: `Pause.news` says what, by where the request
stood and by the sessions that are on the list, and `Traffic.tells_news` that it is told by no other
move and nothing else by any.
-/

import EventRelay.Proofs.Server.Sound
import EventRelay.Proofs.Session.Telling

namespace EventRelay

/-- What the listeners are told when a request goes on. -/
def Pause.news (s : Server) : Pause → List SessionEvent
  | .enlisting e => [.created e.session.source]
  | .expiring u _ =>
    if (s.registry.live? u).any (s.registry.isStale s.now) then [.expired u] else []
  | .closing u => if (s.registry.live? u).isSome then [.invalidated u] else []
  | .sweeping since => (s.registry.sweepable since).map .expired
  | .seeking _ _ | .liningUp _ => []

namespace Server

variable {s : Server}

/-- A step of a poll tells nothing. -/
theorem PollStep.tells {s' : Server} {events : List Event} {k : Nat} {p : Poll}
    {e : Entry} {answer : Option (Outcome Batch)} (h : s.PollStep events k p e s' answer)
    (hp : s.poll? k = some p) : s.registry.Tells s'.registry [] := by
  cases h with
  | stays | waits => exact .refl _
  | timesOut | refuses =>
    rw [dropPoll_eq hp]
    exact Registry.tells_modify _ _ _
  | overflows | consumes =>
    rw [dropPoll_withRegistry hp]
    exact ⟨rfl, (List.append_nil _).symm⟩

/-- A request that looks its session up tells nothing. -/
theorem tells_seeking (s : Server) (k : Nat) (source : SourceId) (aim : Aim) :
    s.registry.Tells (s.proceed k (.seeking source aim)).1.registry [] := by
  have hglance := Registry.tells_glance s.registry s.now source
  simp only [proceed]
  cases hseen : s.registry.glance s.now source with
  | mk r sighting =>
    rw [hseen] at hglance
    cases sighting with
    | absent | idle => exact hglance
    | live =>
      cases aim with
      | opening | lookup | poll => exact hglance
      | subscribe typeId => exact hglance.trans (Registry.tells_addType r source typeId)
      | unsubscribe typeId => exact hglance.trans (Registry.tells_removeType r source typeId)

/-- The sessions that a request leaves which comes to end one. -/
theorem registry_closing (s : Server) (k : Nat) (u : SourceId) :
    (s.proceed k (.closing u)).1.registry = (s.registry.invalidate u).1 := by
  simp only [proceed]
  split <;> simp_all [withRegistry]

/-- **A request that goes on.** -/
theorem tells_proceed (hsettled : s.registry.Settled) (hsources : s.registry.sources.Nodup)
    (k : Nat) (p : Pause) : s.registry.Tells (s.proceed k p).1.registry (p.news s) := by
  have hended : ∀ (u : SourceId) (e : Entry) (event : SessionEvent),
      s.registry.live? u = some e → s.registry.Tells (s.registry.retire u event).1 [event] := by
    intro u e event hlive
    have htold := Registry.tells_retire s.registry u event
    rwa [if_pos (by rw [Registry.retire_of_live hsettled hlive])] at htold
  cases p with
  | seeking u aim => exact tells_seeking s k u aim
  | expiring u aim =>
    have hr : (s.proceed k (.expiring u aim)).1.registry = s.registry.expire s.now u := rfl
    rw [hr, Registry.expire, Pause.news]
    cases hlive : s.registry.live? u with
    | none => exact .refl _
    | some e =>
      dsimp only [Option.any_some]
      split
      · exact hended u e _ hlive
      · exact .refl _
  | enlisting e => exact Registry.tells_enlist _ e
  | closing u =>
    rw [registry_closing, Registry.invalidate, Pause.news]
    cases hlive : s.registry.live? u with
    | none =>
      rw [Registry.retire_of_not_live hlive]
      exact .refl _
    | some e => exact hended u e _ hlive
  | sweeping since => exact (Registry.tells_sweep hsettled hsources since).1
  | liningUp u => exact Registry.tells_modify _ _ _

end Server

namespace Traffic

variable {t t' : Traffic} {m : Move}

/-- What the listeners are told when something happens. -/
def news (t : Traffic) : Move → List SessionEvent
  | .resume k => ((t.paused.lookup k).map (·.news t.server)).getD []
  | .arrive _ | .abort _ | .publish _ _ _ | .pass _ => []

/-- **What a move tells.** -/
theorem tells_news (h : t.Sound) (ht : t.step m = some t') :
    t.server.registry.Tells t'.server.registry (t.news m) := by
  cases happens_of_step ht with
  | arrives r hr =>
    rw [arrive, server_settle]
    exact .refl _
  | goesOn k p hp =>
    rw [server_settle, news, hp]
    exact Server.tells_proceed h.settled h.orderly.sources k p
  | polls k p hk hp =>
    obtain ⟨e, he⟩ := h.orderly.entry_of_poll hp
    rw [news, hk]
    exact (h.orderly.pollStep h.ring hp he).tells hp
  | hangsUp k p hk hp =>
    rw [note, Server.dropPoll_eq hp]
    exact Registry.tells_modify _ _ _
  | leaves | publishes | passes => exact .refl _

end Traffic
end EventRelay
