/-
# What an answer tells of its session

A client keeps its session after a failure that is resumable and gives it up after any
other.  So an answer to a poll is candid about the session if it is resumable only for a
session that is still on the list, and if it tells the end of one that is not
(`Server.Candid`).

With settings that are valid no poll times out, and an answer is candid except in one case
(`Traffic.candid_iff`): the session has ended, and more than `capacity` events that it has
not consumed were published.  Then the overflow is found first, and the caller is told to
resume a session that is gone (`Traffic.not_candid_sample`).
-/

import EventRelay.Proofs.Server.Sound

namespace EventRelay

/-- Whether an answer to a poll is true to its session. -/
structure Server.Candid (e : Entry) (answer : Outcome Batch) : Prop where
  live : ∀ fault, answer = .error fault → fault.kind.isResumable = true →
    e.listed = true ∧ e.session.invalidated = false
  ended : e.session.invalidated = true → answer = .error .invalidSession

namespace Traffic

variable {t₀ t : Traffic} {config : ServerConfig} {epoch : Epoch} {ms : List Move} {k : Nat}
  {p : Poll} {answer : Outcome Batch}

/-- **When an answer is candid.**  Whatever a server with valid settings has gone through, if a
poll that goes on gets its answer, that is no timeout; and it is candid about the session, as
it is at that instant, exactly if the session is on the list or not too far behind. -/
theorem candid_iff (hvalid : config.validate = .ok ()) (hnew : Traffic.new config epoch = .ok t₀)
    (hrun : t₀.run ms = some t) (hp : t.server.poll? k = some p)
    (hanswer : (t.server.advancePoll k).2 = some answer) :
    ∃ e e', t.server.registry.entry? p.source = some e ∧
      (t.server.advancePoll k).1.registry.entry? p.source = some e' ∧
      answer ≠ .error .connectionTimeout ∧
      (Server.Candid e' answer ↔ e.listed = true ∨ ¬ t.server.Lags e.session) := by
  have hs := (Sound.new hnew).run hrun
  have hconfig : t.server.config.validate = .ok () := by
    obtain ⟨log, -, rfl⟩ := eq_of_new hnew
    rw [(Sound.new hnew).config_run hrun]
    exact hvalid
  obtain ⟨e, he⟩ := hs.orderly.entry_of_poll hp
  have hstep := hs.orderly.pollStep hs.ring hp he
  obtain ⟨e', he', hlisted, hinvalidated⟩ := hstep.entry hp he
  refine ⟨e, e', he, he', ?_⟩
  have hsettled := hs.settled.of_entry he
  have hended : e'.session.invalidated = !e.listed := hinvalidated.trans hsettled
  generalize (t.server.advancePoll k).1 = s' at hstep he'
  rw [hanswer] at hstep
  cases hstep with
  | timesOut hturn w hw htime =>
    exact absurd htime (Nat.not_le_of_lt (hs.orderly.in_time hp he hconfig hw))
  | overflows hturn hlag hover =>
    refine ⟨nofun, fun h => ?_, ?_⟩
    · exact .inl (hlisted ▸ (h.live _ rfl rfl).1)
    · rintro (hlive | hnear)
      · refine ⟨fun _ _ _ => ⟨hlisted.trans hlive, by rw [hended, hlive]; rfl⟩, fun h => ?_⟩
        rw [hended, hlive] at h
        cases h
      · exact absurd hlag hnear
  | refuses hturn hlag hover hgone =>
    refine ⟨nofun, fun _ => .inr hlag, fun _ => ⟨fun fault hfault hkind => ?_, fun _ => rfl⟩⟩
    cases hfault
    cases hkind
  | consumes hturn hlag hover hlive =>
    refine ⟨nofun, fun _ => .inr hlag, fun _ => ⟨nofun, fun h => ?_⟩⟩
    rw [hinvalidated, hlive] at h
    cases h

/-- Settings with room for two events. -/
def Sample.small : ServerConfig := { ServerConfig.default with bufferCapacity := 2 }

/-- While a poll waits, its session is closed and three events are published. -/
def Sample.overrun : List Move :=
  waiting ++ [.arrive (.closeSession (some id)), .resume 2, publish, publish, publish,
    .pass 1000000000]

/-- What the poll then gets. -/
theorem exists_overrun : ∃ t₀ t p e answer, Traffic.new Sample.small Sample.epoch = .ok t₀ ∧
    t₀.run Sample.overrun = some t ∧ t.server.poll? 1 = some p ∧
    (t.server.advancePoll 1).1.registry.entry? p.source = some e ∧
    (t.server.advancePoll 1).2 = some answer ∧ e.session.invalidated = true ∧
    ∃ fault, answer = .error fault ∧ fault.kind = .overflow := by
  have hrun : (Sample.play Sample.small Sample.overrun).bind (fun t =>
      (t.server.poll? 1).bind fun p =>
        ((t.server.advancePoll 1).1.registry.entry? p.source).bind fun e =>
          (t.server.advancePoll 1).2.map fun answer =>
            (e.session.invalidated, match answer with
              | .ok _ => none
              | .error fault => some fault.kind)) = some (true, some .overflow) := by
    decide
  obtain ⟨t, hplay, hrun⟩ := Option.bind_eq_some_iff.1 hrun
  obtain ⟨p, hp, hrun⟩ := Option.bind_eq_some_iff.1 hrun
  obtain ⟨e, he, hrun⟩ := Option.bind_eq_some_iff.1 hrun
  obtain ⟨answer, hanswer, heq⟩ := Option.map_eq_some_iff.1 hrun
  obtain ⟨hended, hkind⟩ := Prod.mk.inj heq
  obtain ⟨t₀, hnew, ht⟩ := Sample.run_of_play hplay
  refine ⟨t₀, t, p, e, answer, hnew, ht, hp, he, hanswer, hended, ?_⟩
  cases answer with
  | ok b => cases hkind
  | error fault => exact ⟨fault, rfl, Option.some.inj hkind⟩

theorem candid_iff_sample : ∃ t₀ t p, ∃ e e' : Entry, ∃ answer, Sample.small.validate = .ok () ∧
    Traffic.new Sample.small Sample.epoch = .ok t₀ ∧ t₀.run Sample.overrun = some t ∧
    t.server.poll? 1 = some p ∧ (t.server.advancePoll 1).2 = some answer ∧
    (Server.Candid e' answer ↔ e.listed = true ∨ ¬ t.server.Lags e.session) := by
  obtain ⟨t₀, t, p, -, answer, hnew, ht, hp, -, hanswer, -⟩ := exists_overrun
  obtain ⟨e, e', -, -, -, hiff⟩ := candid_iff (by decide) hnew ht hp hanswer
  exact ⟨t₀, t, p, e, e', answer, by decide, hnew, ht, hp, hanswer, hiff⟩

/-- **A session that is gone is called resumable.** -/
theorem not_candid_sample : ∃ t₀ t p e answer, Sample.small.validate = .ok () ∧
    Traffic.new Sample.small Sample.epoch = .ok t₀ ∧ t₀.run Sample.overrun = some t ∧
    t.server.poll? 1 = some p ∧
    (t.server.advancePoll 1).1.registry.entry? p.source = some e ∧
    (t.server.advancePoll 1).2 = some answer ∧ ¬ Server.Candid e answer := by
  obtain ⟨t₀, t, p, e, answer, hnew, ht, hp, he, hanswer, hended, fault, rfl, hkind⟩ :=
    exists_overrun
  refine ⟨t₀, t, p, e, _, by decide, hnew, ht, hp, he, hanswer, fun h => ?_⟩
  cases h.ended hended
  cases hkind

end Traffic
end EventRelay
