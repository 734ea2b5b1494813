/-
# One session on two servers

Two servers are compared with the same settings, log and clock, which have one session in common
(`Server.Shares`, after `Registry.Shares`).  A request that arrives stands at the same place on both;
one that goes on for that session does the same on both and stands at the same place, or gets the
same answer, but for what a sweep counts; and so does a poll on that session.  Nothing is asked of
the other sessions, nor of the polls on them.
-/

import EventRelay.Proofs.Server.Alike
import EventRelay.Proofs.Server.Apart
import EventRelay.Proofs.Session.Shared

namespace EventRelay
namespace Server

/-- A poll that goes on moves no poll before it is known where it then stands. -/
theorem polls_goOn {s : Server} {k : Nat} {q : Poll} {e : Entry}
    (he : s.registry.entry? q.source = some e) : (s.goOn k q).1.polls = s.polls := by
  obtain ⟨f, a, -, hact⟩ := actsOn_goOn s k q e
  have hgoes : s.goOn k q = _ := hact s.registry he
  rw [hgoes]
  rfl

theorem poll_dropPoll_self {s : Server} {k : Nat} {q : Poll} (hq : s.poll? k = some q) :
    (s.dropPoll k).poll? k = none := by
  rw [dropPoll_eq hq]
  exact (Tickets.lookup_filter s.polls k k).trans (if_pos rfl)

/-- Whether two servers have the session of a source in common, but for the tickets. -/
structure Shares (σ : Nat → Nat) (u : SourceId) (s s' : Server) : Prop where
  config : s'.config = s.config
  epoch : s'.epoch = s.epoch
  log : s'.log = s.log
  now : s'.now = s.now
  registry : s.registry.Shares σ u s'.registry

namespace Shares

variable {σ : Nat → Nat} {u : SourceId} {s s' : Server} {k : Nat} {p : Pause}

theorem withRegistry (h : s.Shares σ u s') {r r' : Registry} (hr : r.Shares σ u r') :
    (s.withRegistry r).Shares σ u (s'.withRegistry r') :=
  ⟨h.config, h.epoch, h.log, h.now, hr⟩

/-! ### Requests -/

theorem makeSession_eq (h : s.Shares σ u s') (fresh : SourceId) :
    s'.makeSession fresh = s.makeSession fresh := by
  rw [makeSession, h.now, h.log]
  rfl

theorem missed_eq (h : s.Shares σ u s') (aim : Aim) : s'.missed aim = s.missed aim := by
  cases aim with
  | opening fresh => exact h.makeSession_eq fresh
  | subscribe | unsubscribe | lookup | poll => rfl

/-- A request that arrives stands at the same place. -/
theorem receive_eq (h : s.Shares σ u s') (r : Request) : s'.receive r = s.receive r := by
  have hresolve : ∀ id, s'.resolve id = s.resolve id := fun id => by
    rw [resolve, h.epoch]
    rfl
  have hseek : ∀ current aim, s'.seek current aim = s.seek current aim := by
    rintro (_ | id) aim
    · rfl
    · simp only [seek, resolveNamed, hresolve]
  cases r with
  | openSession current fresh =>
    cases current with
    | none => exact h.makeSession_eq fresh
    | some id => simp only [receive, hresolve, h.makeSession_eq]
  | closeSession current =>
    cases current with
    | none => rfl
    | some id => simp only [receive, hresolve]
  | subscribe | unsubscribe | lookup | poll => exact hseek _ _
  | sweep => simp only [receive, h.now]

/-- A request finds the session. -/
theorem found (h : s.Shares σ u s') (aim : Aim) :
    (s'.found u aim).2 = (s.found u aim).2 ∧ (s.found u aim).1.Shares σ u (s'.found u aim).1 := by
  cases aim with
  | opening | lookup | poll => exact ⟨rfl, h⟩
  | subscribe t =>
    simp only [Server.found, Registry.addType, h.registry.wants_eq]
    exact ⟨trivial, h.withRegistry (h.registry.modifySession fun s => s.source_subscribe t)⟩
  | unsubscribe t =>
    simp only [Server.found, Registry.removeType, h.registry.wants_eq]
    exact ⟨trivial, h.withRegistry (h.registry.modifySession fun _ => rfl)⟩

/-- A request looks for the session. -/
theorem proceed_seeking (h : s.Shares σ u s') (k k' : Nat) (aim : Aim) :
    (s'.proceed k' (.seeking u aim)).2 = (s.proceed k (.seeking u aim)).2 ∧
      (s.proceed k (.seeking u aim)).1.Shares σ u (s'.proceed k' (.seeking u aim)).1 := by
  have hglance := h.registry.glance s.now
  simp only [proceed, h.now]
  generalize s.registry.glance s.now u = seen at hglance
  generalize s'.registry.glance s.now u = seen' at hglance
  obtain ⟨r, sighting⟩ := seen
  obtain ⟨r', sighting'⟩ := seen'
  obtain ⟨rfl, hshares⟩ := hglance
  cases sighting' with
  | absent => exact ⟨h.missed_eq aim, h.withRegistry hshares⟩
  | idle => exact ⟨rfl, h.withRegistry hshares⟩
  | live => exact (h.withRegistry hshares).found aim

/-- **A request goes on in the same way**, if it stops for the session, or makes one, or sweeps. -/
theorem proceed (h : s.Shares σ u s') (hs : s.registry.Settled) (hs' : s'.registry.Settled)
    (hsources : s.registry.sources.Nodup) (hsources' : s'.registry.sources.Nodup)
    (hp : p.about? = some u ∨ (∃ e, p = .enlisting e) ∨ ∃ since, p = .sweeping since)
    (hnew : ∀ e, p = .enlisting e → e.queue = []) (k : Nat) :
    Standing.Agrees False (s.proceed k p).2 (s'.proceed (σ k) p).2 ∧
      (s.proceed k p).1.Shares σ u (s'.proceed (σ k) p).1 := by
  cases p with
  | seeking v aim =>
    obtain rfl : v = u := by simpa [Pause.about?] using hp
    obtain ⟨hst, hshares⟩ := h.proceed_seeking k (σ k) aim
    exact ⟨hst ▸ .same _, hshares⟩
  | expiring v aim =>
    obtain rfl : v = u := by simpa [Pause.about?] using hp
    have hexpired := h.registry.expire hs hs' s.now
    simp only [Server.proceed, h.now, h.missed_eq]
    exact ⟨.same _, h.withRegistry hexpired⟩
  | enlisting e =>
    simp only [Server.proceed, h.epoch]
    exact ⟨.same _, h.withRegistry (h.registry.enlist (hnew e rfl))⟩
  | closing v =>
    obtain rfl : v = u := by simpa [Pause.about?] using hp
    have hretired := h.registry.retire hs hs' (.invalidated v)
    simp only [Server.proceed, Registry.invalidate]
    generalize s.registry.retire v (.invalidated v) = result at hretired
    generalize s'.registry.retire v (.invalidated v) = result' at hretired
    obtain ⟨r, ended⟩ := result
    obtain ⟨r', ended'⟩ := result'
    obtain ⟨rfl, hshares⟩ := hretired
    cases ended' <;> exact ⟨.same _, h.withRegistry hshares⟩
  | sweeping since =>
    have hswept := h.registry.sweep hs hs' hsources hsources' since
    simp only [Server.proceed]
    exact ⟨.swept _ _, h.withRegistry hswept⟩
  | liningUp v =>
    obtain rfl : v = u := by simpa [Pause.about?] using hp
    exact ⟨.same _, h.config, h.epoch, h.log, h.now, h.registry.enqueue k⟩

/-- Whoever lines up does so on both. -/
theorem poll_proceed (hk : s.poll? k = none) {k' : Nat} (hk' : s'.poll? k' = none) (p : Pause) :
    (s'.proceed k' p).1.poll? k' = (s.proceed k p).1.poll? k := by
  by_cases hline : ∃ v, p = .liningUp v
  · obtain ⟨v, rfl⟩ := hline
    have hlined : (s.lineUp k v).poll? k = some ⟨v, .queued⟩ :=
      (Tickets.lookup_concat hk _ k).trans (if_pos rfl)
    have hlined' : (s'.lineUp k' v).poll? k' = some ⟨v, .queued⟩ :=
      (Tickets.lookup_concat hk' _ k').trans (if_pos rfl)
    exact hlined'.trans hlined.symm
  · have hpolls : ∀ (s : Server) (k : Nat), (s.proceed k p).1.polls = s.polls := by
      intro s k
      by_contra hne
      obtain ⟨v, hv, -⟩ := lineUp_of_proceed hne
      exact hline ⟨v, hv⟩
    rw [poll?, hpolls, poll?, hpolls]
    exact hk'.trans hk.symm

/-! ### Polls -/

theorem resync (h : s.Shares σ u s') (fault : Fault) :
    (s.resync u fault).Shares σ u (s'.resync u fault) := by
  cases fault with
  | overflow cursor last capacity =>
    simp only [Server.resync, h.log]
    exact h.withRegistry (h.registry.modifySession fun _ => rfl)
  | invalidSession | connectionTimeout | deploymentMismatch | transient | remote | sessionActive
  | noActiveSession | invalidInput | config | serialization | request | internal => exact h

theorem consume (h : s.Shares σ u s') (d : Drain) :
    (s'.consume u d).2 = (s.consume u d).2 ∧ (s.consume u d).1.Shares σ u (s'.consume u d).1 := by
  simp only [Server.consume, h.registry.entry]
  cases s.registry.entry? u with
  | none => exact ⟨rfl, h⟩
  | some e =>
    have hended : (e.renamed σ).session = e.session := rfl
    simp only [Option.map_some, hended, h.now]
    cases e.session.invalidated with
    | true => exact ⟨rfl, h⟩
    | false =>
      have hupdated := h.registry.modifySession (f := (·.update d.cursor)) fun _ => rfl
      exact ⟨rfl, h.withRegistry (hupdated.modify_same (fun _ => rfl) fun _ => rfl)⟩

theorem finishWait (h : s.Shares σ u s') (last : Int) :
    (s'.finishWait u last).2 = (s.finishWait u last).2 ∧
      (s.finishWait u last).1.Shares σ u (s'.finishWait u last).1 := by
  simp only [Server.finishWait, h.log]
  cases s.log.drain (last + 1) with
  | error fault => exact ⟨rfl, h.resync fault⟩
  | ok d => exact h.consume d

theorem stepWaiting (h : s.Shares σ u s') (last : Int) (deadline : Nat) (w : Wait) :
    (s'.stepWaiting u last deadline w).2 = (s.stepWaiting u last deadline w).2 ∧
      (s.stepWaiting u last deadline w).1.Shares σ u (s'.stepWaiting u last deadline w).1 := by
  simp only [Server.stepWaiting, h.log, h.now]
  cases w.advance s.now s.log.cursor with
  | none =>
    obtain ⟨hanswer, hshares⟩ := h.finishWait last
    exact ⟨congrArg Sum.inr hanswer, hshares⟩
  | some w' =>
    by_cases htime : deadline ≤ s.now
    · simp only [if_pos htime]
      exact ⟨trivial, h⟩
    · simp only [if_neg htime]
      exact ⟨trivial, h⟩

theorem takeTurn (h : s.Shares σ u s') :
    (s'.takeTurn u).2 = (s.takeTurn u).2 ∧ (s.takeTurn u).1.Shares σ u (s'.takeTurn u).1 := by
  simp only [Server.takeTurn, h.registry.entry]
  cases s.registry.entry? u with
  | none => exact ⟨rfl, h⟩
  | some e =>
    have hsession : (e.renamed σ).session = e.session := rfl
    simp only [Option.map_some, hsession, h.log, h.now, h.config]
    cases s.log.ensureRetained e.session.lastSequence with
    | error fault => exact ⟨rfl, h.resync fault⟩
    | ok => exact h.stepWaiting _ _ _

theorem goOn (h : s.Shares σ u s') (hσ : σ.Injective) {q : Poll} (hq : q.source = u) (k : Nat) :
    (s'.goOn (σ k) q).2 = (s.goOn k q).2 ∧ (s.goOn k q).1.Shares σ u (s'.goOn (σ k) q).1 := by
  subst hq
  simp only [Server.goOn]
  cases q.phase with
  | waiting last deadline w => exact h.stepWaiting last deadline w
  | queued =>
    simp only [h.registry.holds_eq hσ]
    split
    · exact h.takeTurn
    · exact ⟨rfl, h⟩

theorem dropPoll (h : s.Shares σ u s') (hσ : σ.Injective) {q : Poll} (hq : s.poll? k = some q)
    (hq' : s'.poll? (σ k) = some q) (hsource : q.source = u) :
    (s.dropPoll k).Shares σ u (s'.dropPoll (σ k)) := by
  rw [dropPoll_eq hq, dropPoll_eq hq', hsource]
  exact ⟨h.config, h.epoch, h.log, h.now, h.registry.release hσ k⟩

/-- **A poll goes on in the same way.** -/
theorem advancePoll (h : s.Shares σ u s') (hσ : σ.Injective) {q : Poll} {e : Entry}
    (hq : s.poll? k = some q) (hq' : s'.poll? (σ k) = some q) (hsource : q.source = u)
    (he : s.registry.entry? u = some e) :
    (s'.advancePoll (σ k)).2 = (s.advancePoll k).2 ∧
      (s.advancePoll k).1.Shares σ u (s'.advancePoll (σ k)).1 ∧
      (s'.advancePoll (σ k)).1.poll? (σ k) = (s.advancePoll k).1.poll? k := by
  subst hsource
  have hgoes := h.goOn hσ rfl k
  have hpolls : (s.goOn k q).1.poll? k = some q := by
    rw [poll?, polls_goOn he]
    exact hq
  have hpolls' : (s'.goOn (σ k) q).1.poll? (σ k) = some q := by
    rw [poll?, polls_goOn (by rw [h.registry.entry, he, Option.map_some])]
    exact hq'
  rw [advancePoll_of_goOn hq, advancePoll_of_goOn hq']
  generalize s.goOn k q = result at hgoes hpolls
  generalize s'.goOn (σ k) q = result' at hgoes hpolls'
  obtain ⟨s₁, phase | answer⟩ := result <;> obtain ⟨s₁', phase' | answer'⟩ := result'
  · obtain ⟨heq, hshares⟩ := hgoes
    cases heq
    refine ⟨rfl, ⟨hshares.config, hshares.epoch, hshares.log, hshares.now, hshares.registry⟩, ?_⟩
    rw [poll_setPhase, poll_setPhase, if_pos rfl, if_pos rfl, hpolls, hpolls']
  · cases hgoes.1
  · cases hgoes.1
  · obtain ⟨heq, hshares⟩ := hgoes
    cases heq
    refine ⟨rfl, hshares.dropPoll hσ hpolls hpolls' rfl, ?_⟩
    rw [poll_dropPoll_self hpolls, poll_dropPoll_self hpolls']

end Shares
end Server
end EventRelay
