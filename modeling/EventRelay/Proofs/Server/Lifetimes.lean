/-
# The life of a session under traffic

Whatever requests are under way, the sessions of a server are `Registry.Reached`: what a move does
to them is what one request does from one of its pauses to the next.  So the listeners hear of each
session that it was created and at most once that it has ended (`Traffic.lifecycle`), in agreement
with what the requests are answered that end sessions (`Traffic.Announces`).
-/

import EventRelay.Proofs.Server.Expiry
import EventRelay.Proofs.Server.Replies
import EventRelay.Proofs.Session.Lifecycle

namespace EventRelay

namespace Server

variable {s : Server} {k : Nat} {p : Pause} {ttl : Duration}

/-- A request that looks its session up finds it, or reads the list only. -/
theorem reached_seeking (h : Registry.Reached ttl s.registry) (k : Nat) (u : SourceId) (aim : Aim) :
    Registry.Reached ttl (s.proceed k (.seeking u aim)).1.registry := by
  have hglance := Registry.Reached.glance s.registry s.now u h
  simp only [proceed]
  cases hseen : s.registry.glance s.now u with
  | mk r sighting =>
    rw [hseen] at hglance
    cases sighting with
    | absent | idle => exact hglance
    | live =>
      cases aim with
      | opening | lookup | poll => exact hglance
      | subscribe t => exact .addType r u t hglance
      | unsubscribe t => exact .removeType r u t hglance

/-- A poll that goes on moves its session on, and leaves the queue when it ends. -/
theorem PollStep.reached {s' : Server} {events : List Event} {q : Poll} {e : Entry}
    {answer : Option (Outcome Batch)} (h : s.PollStep events k q e s' answer)
    (hq : s.poll? k = some q) (hr : Registry.Reached ttl s.registry) :
    Registry.Reached ttl s'.registry := by
  cases h with
  | stays | waits => exact hr
  | timesOut | refuses =>
    rw [dropPoll_eq hq]
    exact .release _ _ k hr
  | overflows =>
    rw [dropPoll_withRegistry hq]
    exact .release _ _ k (.update _ _ _ hr)
  | consumes =>
    rw [dropPoll_withRegistry hq]
    exact .release _ _ k (.touch _ _ _ (.update _ _ _ hr))

end Server

namespace Traffic

variable {t₀ t t' : Traffic} {config : ServerConfig} {epoch : Epoch} {ms : List Move} {m : Move}
  {k : Nat} {p : Pause} {ttl : Duration}

/-- A request that goes on does what it does without a pause. -/
theorem reached_goesOn (h : t.Sound) (hr : Registry.Reached ttl t.server.registry)
    (hp : t.paused.lookup k = some p) :
    Registry.Reached ttl (t.server.proceed k p).1.registry := by
  cases p with
  | seeking u aim => exact Server.reached_seeking hr k u aim
  | expiring u aim => exact .expire _ _ u hr
  | enlisting e =>
    obtain ⟨since, start, he, -⟩ := h.fits _ (Tickets.mem_of_lookup hp)
    obtain ⟨hfree, -⟩ := h.not_mem_reserved_take hp rfl
    have hcreate := Registry.Reached.create _ since e.session.source start hr fun hin =>
      hfree (List.mem_append_left _ hin)
    rw [Registry.create, ← he] at hcreate
    exact hcreate
  | closing u =>
    rw [Server.registry_closing]
    exact .invalidate _ u hr
  | sweeping since => exact .sweep _ since hr
  | liningUp u => exact .enqueue _ u k hr

/-- **A move does to the sessions what can be done without a pause.** -/
theorem reached_step (h : t.Sound) (hr : Registry.Reached ttl t.server.registry)
    (ht : t.step m = some t') : Registry.Reached ttl t'.server.registry := by
  cases happens_of_step ht with
  | arrives r hadmits =>
    rw [Traffic.arrive, server_settle]
    exact hr
  | goesOn k p hp =>
    rw [server_settle]
    exact reached_goesOn h hr hp
  | polls k p hk hp =>
    obtain ⟨e, he⟩ := h.orderly.entry_of_poll hp
    exact (h.orderly.pollStep h.ring hp he).reached hp hr
  | hangsUp k p hk hp =>
    simp only [Traffic.note]
    rw [Server.dropPoll_eq hp]
    exact .release _ _ k hr
  | leaves | publishes | passes => exact hr

/-- What holds of the traffic of every run. -/
structure Regular (ttl : Duration) (t : Traffic) : Prop extends Sound t where
  traced : t.Traced
  reached : Registry.Reached ttl t.server.registry

namespace Regular

theorem new (hnew : Traffic.new config epoch = .ok t) : Regular config.sessionTtl t where
  toSound := .new hnew
  traced := .new hnew
  reached := by
    obtain ⟨log, -, rfl⟩ := eq_of_new hnew
    exact .new

theorem step (h : Regular ttl t) (ht : t.step m = some t') : Regular ttl t' where
  toSound := h.toSound.step ht
  traced := h.traced.step h.toSound ht
  reached := reached_step h.toSound h.reached ht

theorem run (h : Regular ttl t) (ht : t.run ms = some t') : Regular ttl t' :=
  run_induction h (fun h hstep => h.step hstep) ht

theorem chronicled (h : Regular ttl t) : t.server.registry.Chronicled := h.reached.chronicled

/-- What was told stays told. -/
theorem toldEnded_step (h : Regular ttl t) (ht : t.step m = some t') {u : SourceId}
    (hu : t.server.registry.ToldEnded u) : t'.server.registry.ToldEnded u := by
  refine hu.mono ?_
  rw [(tells_news h.toSound ht).sent]
  exact List.subset_append_left _ _

end Regular

/-! ### What is told, and what is answered -/

/-- How what the listeners are told agrees with what the requests are answered. -/
structure Announces (t t' : Traffic) (m : Move) (told : List SessionEvent) : Prop where
  /-- A request to end a session succeeds exactly if it tells that the session was ended. -/
  closing : ∀ k u, m = .resume k → t.paused.lookup k = some (.closing u) →
    ∃ answer, t'.notes = t.notes ++ [(t.server.now, .answered k answer)] ∧
      (answer = .ok .done ∧ told = [.invalidated u] ∨
        answer = .error .invalidSession ∧ told = [])
  /-- Nothing else tells that. -/
  invalidated : ∀ u, .invalidated u ∈ told →
    ∃ k, m = .resume k ∧ t.paused.lookup k = some (.closing u)
  /-- A sweep says of how many sessions it tells that they have expired, and tells nothing else. -/
  sweeping : ∀ k since, m = .resume k → t.paused.lookup k = some (.sweeping since) →
    t'.notes = t.notes ++ [(t.server.now, .answered k (.ok (.swept told.length)))] ∧
      ∀ x ∈ told, ∃ u, x = .expired u

/-- Traffic once a request has gone on from a pause. -/
def next (t : Traffic) (k : Nat) (p : Pause) : Traffic :=
  { t.take k with server := (t.server.proceed k p).1 }.settle k (t.server.proceed k p).2

theorem resume_of_paused (hp : t.paused.lookup k = some p) :
    t.step (.resume k) = some (t.next k p) := by
  simp only [step, resume, hp]
  rfl

/-- A request comes to end a session. -/
theorem announces_closing (h : t.Sound) {u : SourceId}
    (hp : t.paused.lookup k = some (.closing u)) (ht : t.step (.resume k) = some t') :
    ∃ answer, t'.notes = t.notes ++ [(t.server.now, .answered k answer)] ∧
      (answer = .ok .done ∧ t.news (.resume k) = [.invalidated u] ∨
        answer = .error .invalidSession ∧ t.news (.resume k) = []) := by
  rw [resume_of_paused hp] at ht
  obtain rfl := Option.some.inj ht
  simp only [next, news, hp, Option.map_some, Option.getD_some, Pause.news, Server.proceed,
    Registry.invalidate]
  cases hlive : t.server.registry.live? u with
  | none =>
    rw [Registry.retire_of_not_live hlive]
    exact ⟨_, rfl, .inr ⟨rfl, rfl⟩⟩
  | some e =>
    rw [Registry.retire_of_live h.settled hlive]
    exact ⟨_, rfl, .inl ⟨rfl, rfl⟩⟩

/-- A sweep goes on. -/
theorem announces_sweeping (h : t.Sound) {since : Nat}
    (hp : t.paused.lookup k = some (.sweeping since)) (ht : t.step (.resume k) = some t') :
    t'.notes = t.notes ++
      [(t.server.now, .answered k (.ok (.swept (t.news (.resume k)).length)))] ∧
      ∀ x ∈ t.news (.resume k), ∃ u, x = .expired u := by
  rw [resume_of_paused hp] at ht
  obtain rfl := Option.some.inj ht
  obtain ⟨-, hcount⟩ := Registry.tells_sweep h.settled h.orderly.sources since
  have htold : t.news (.resume k) = (t.server.registry.sweepable since).map .expired := by
    simp only [news, hp, Option.map_some, Option.getD_some, Pause.news]
  refine ⟨?_, fun x hx => ?_⟩
  · rw [htold, List.length_map, ← hcount]
    rfl
  · rw [htold] at hx
    obtain ⟨u, -, rfl⟩ := List.mem_map.1 hx
    exact ⟨u, rfl⟩

/-- **What is told agrees with what is answered.** -/
theorem announces_news (h : t.Sound) (ht : t.step m = some t') :
    Announces t t' m (t.news m) where
  closing k u hm hp := by
    subst hm
    exact announces_closing h hp ht
  sweeping k since hm hp := by
    subst hm
    exact announces_sweeping h hp ht
  invalidated u hu := by
    cases m with
    | arrive | abort | publish | pass => cases hu
    | resume k =>
      refine ⟨k, rfl, ?_⟩
      cases hp : t.paused.lookup k with
      | none => simp [news, hp] at hu
      | some p =>
        simp only [news, hp, Option.map_some, Option.getD_some] at hu
        cases p with
        | closing v =>
          simp only [Pause.news] at hu
          split at hu
          · rw [SessionEvent.invalidated.inj (List.mem_singleton.1 hu)]
          · cases hu
        | expiring v aim =>
          simp only [Pause.news] at hu
          split at hu <;> simp at hu
        | seeking | enlisting | sweeping | liningUp => simp [Pause.news] at hu

/-- **The life of a session.**  In every run, however its requests come in between one another, the
listeners hear of each session that it was created and then at most once that it has ended, exactly
if it is off the list, which is when it is marked (`Registry.Lifecycle`); and at every move what
they are told agrees with what is answered (`Announces`). -/
theorem lifecycle (hnew : Traffic.new config epoch = .ok t₀) (hrun : t₀.run ms = some t) :
    t.server.registry.Lifecycle ∧ ∀ m t', t.step m = some t' →
      ∃ told, t'.server.registry.feed.sent = t.server.registry.feed.sent ++ told ∧
        Announces t t' m told := by
  have h := (Regular.new hnew).run hrun
  refine ⟨Registry.lifecycle_of_chronicled h.chronicled, fun m t' ht => ?_⟩
  exact ⟨t.news m, (tells_news h.toSound ht).sent, announces_news h.toSound ht⟩

/-- A session is ended on request after another request has found it idle, and before that one
goes on. -/
def Sample.overtaken : List Move :=
  opened ++ [.pass 2000000000, .arrive (.lookup (some id)), .resume 1,
    .arrive (.closeSession (some id)), .resume 2]

theorem lifecycle_overtaken : ∃ t₀ t t' told,
    Traffic.new Sample.brief Sample.epoch = .ok t₀ ∧ t₀.run Sample.overtaken = some t ∧
      t.server.registry.Lifecycle ∧ t.step (.resume 1) = some t' ∧
      t'.server.registry.feed.sent = t.server.registry.feed.sent ++ told ∧
      Announces t t' (.resume 1) told ∧
      t'.server.registry.feed.sent = [.created Sample.source, .invalidated Sample.source] := by
  have hrun : (Sample.play Sample.brief Sample.overtaken).bind (fun t =>
      (t.step (.resume 1)).map fun t' => t'.server.registry.feed.sent) =
      some [.created Sample.source, .invalidated Sample.source] := by
    decide
  obtain ⟨t, hplay, hrun⟩ := Option.bind_eq_some_iff.1 hrun
  obtain ⟨t', ht, hsent⟩ := Option.map_eq_some_iff.1 hrun
  obtain ⟨t₀, hnew, hstart⟩ := Sample.run_of_play hplay
  obtain ⟨hlife, hmoves⟩ := lifecycle hnew hstart
  obtain ⟨told, htold, hannounces⟩ := hmoves _ t' ht
  exact ⟨t₀, t, t', told, hnew, hstart, hlife, ht, htold, hannounces, hsent⟩

end Traffic
end EventRelay
