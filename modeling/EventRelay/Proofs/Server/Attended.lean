/-
# Clients that keep in touch

A session is live for `sessionTtl` after it was last looked up or gave a batch.  A poll that
overflows, or that is given up, has looked its session up as much as `maxWait` before it ends; so
a client keeps in touch if it comes again less than `sessionTtl - maxWait` after the end of its last
request (`ServerConfig.leeway`, `Traffic.KeepsInTouch`).  Then a request of it stands at one of a few
places (`Traffic.Stands`):

| the request | the session was last looked up | it can end |
| --- | --- | --- |
| seeks its session | at most `maxWait` before the last request ended | at this instant |
| lines up, or gets the turn | at this instant | at this instant |
| waits | when it got the turn | until `maxWait` after that |

No time passes while a request of that client can go on, and none passes it by when it is due;
everybody else comes and goes on as they like, and sweeps are made at any time.  Which requests
count although they are given up is a parameter: those that have looked their session up
(`Traffic.hasLooked`) show that the client is there, the others do not.

Wherever such a request stands, when it goes on it is served, or stands at the next of these places
(`Traffic.Advances`).
-/

import EventRelay.Proofs.Server.Apart
import EventRelay.Proofs.Server.Expiry
import EventRelay.Proofs.Server.Punctual
import EventRelay.Proofs.Server.Resumable

namespace EventRelay

/-- The time within which a client has to come again. -/
def ServerConfig.leeway (config : ServerConfig) : Nat :=
  config.sessionTtl.nanos - config.maxWait.nanos

namespace Server

variable {s : Server} {r : Request} {id : SessionId} {u : SourceId} {e : Entry} {k : Nat} {p : Pause}

/-- Who presents the id of a session of this server looks for the session, unless it ends it. -/
theorem receive_of_current (hr : r.current = some id) (hid : id.epoch = s.epoch)
    (hclose : r ≠ .closeSession (some id)) :
    ∃ aim, s.receive r = .paused (.seeking id.source aim) := by
  have hresolve : s.resolve id = .ok id.source := if_pos hid
  cases r with
  | openSession current fresh =>
    cases hr
    exact ⟨.opening fresh, by simp only [receive, hresolve]⟩
  | closeSession current =>
    cases hr
    exact absurd rfl hclose
  | subscribe current t =>
    cases hr
    exact ⟨.subscribe t, by simp only [receive, seek, resolveNamed, hresolve]⟩
  | unsubscribe current t =>
    cases hr
    exact ⟨.unsubscribe t, by simp only [receive, seek, resolveNamed, hresolve]⟩
  | lookup current =>
    cases hr
    exact ⟨.lookup, by simp only [receive, seek, resolveNamed, hresolve]⟩
  | poll current =>
    cases hr
    exact ⟨.poll, by simp only [receive, seek, resolveNamed, hresolve]⟩
  | sweep => cases hr

theorem receive_ne_ok (s : Server) (r : Request) (reply : Served) :
    s.receive r ≠ .answered (.ok reply) := by
  have hseek : ∀ current aim, s.seek current aim ≠ .answered (.ok reply) := by
    intro current aim
    unfold seek
    split <;> simp
  cases r with
  | openSession current fresh =>
    cases current with
    | none => simp [receive, makeSession]
    | some id =>
      simp only [receive]
      split <;> simp [makeSession]
  | closeSession current =>
    cases current with
    | none => simp [receive]
    | some id =>
      simp only [receive]
      split <;> simp
  | subscribe | unsubscribe | lookup | poll => exact hseek _ _
  | sweep => simp [receive]

theorem access_of_missed {aim : Aim} (h : s.missed aim = .paused (.enlisting e)) :
    e.lastAccess = s.now := by
  cases aim with
  | opening fresh =>
    cases h
    rfl
  | subscribe | unsubscribe | lookup | poll => cases h

/-- A session is made as one that was used just now. -/
theorem access_of_receive (h : s.receive r = .paused (.enlisting e)) : e.lastAccess = s.now := by
  have hseek : ∀ current aim, s.seek current aim ≠ .paused (.enlisting e) := by
    intro current aim
    unfold seek
    split <;> simp
  cases r with
  | openSession current fresh =>
    cases current with
    | none =>
      cases h
      rfl
    | some id =>
      simp only [receive] at h
      split at h
      · cases h
        rfl
      · cases h
  | closeSession current =>
    cases current with
    | none => cases h
    | some id =>
      simp only [receive] at h
      split at h <;> cases h
  | subscribe | unsubscribe | lookup | poll => exact absurd h (hseek _ _)
  | sweep => cases h

theorem access_of_proceed (h : (s.proceed k p).2 = .paused (.enlisting e)) :
    e.lastAccess = s.now := by
  cases p with
  | seeking source aim =>
    simp only [proceed] at h
    split at h
    · exact access_of_missed h
    · cases h
    · cases aim <;> cases h
  | expiring source aim => exact access_of_missed h
  | closing source =>
    simp only [proceed] at h
    split at h <;> cases h
  | enlisting | sweeping | liningUp => cases h

/-- A request that has found its session is served, or lines up. -/
theorem found_of_entry (he : s.registry.entry? u = some e) (aim : Aim) :
    (∃ e', (s.found u aim).1.registry.entry? u = some e' ∧ e'.lastAccess = e.lastAccess ∧
      e'.listed = e.listed) ∧
      ((∃ a, (s.found u aim).2 = .answered a ∧ a ≠ .error .invalidSession) ∨
        (s.found u aim).2 = .paused (.liningUp u)) := by
  cases aim with
  | opening fresh => exact ⟨⟨e, he, rfl, rfl⟩, .inl ⟨_, rfl, by simp⟩⟩
  | subscribe t =>
    exact ⟨⟨_, Registry.entry_modify_self he fun e => e.session.source_subscribe t, rfl, rfl⟩,
      .inl ⟨_, rfl, by simp⟩⟩
  | unsubscribe t =>
    exact ⟨⟨_, Registry.entry_modify_self
      (f := fun e => { e with session := e.session.unsubscribe t }) he fun _ => rfl, rfl, rfl⟩,
      .inl ⟨_, rfl, by simp⟩⟩
  | lookup => exact ⟨⟨e, he, rfl, rfl⟩, .inl ⟨_, rfl, by simp⟩⟩
  | poll => exact ⟨⟨e, he, rfl, rfl⟩, .inr rfl⟩

/-- A poll of a live session is not refused: it gets another answer, stays where it is, or waits. -/
theorem PollStep.of_live {events : List Event} {q : Poll} {s' : Server}
    {answer : Option (Outcome Batch)} (h : PollStep s events k q e s' answer)
    (hq : s.poll? k = some q) (he : s.registry.entry? q.source = some e)
    (hlive : e.session.invalidated = false) :
    ∃ e', s'.registry.entry? q.source = some e' ∧ e'.listed = e.listed ∧
      ((∃ b, answer = some b ∧ b ≠ .error .invalidSession ∧
          (e'.lastAccess = e.lastAccess ∨ e'.lastAccess = s.now)) ∨
        answer = none ∧ e' = e ∧ (s' = s ∧ q.phase = .queued ∨
          ∃ w, s'.poll? k = some ⟨q.source, .waiting e.session.lastSequence (s.deadlineOf q) w⟩ ∧
            (s.waitOf q e.session).advance s.now s.log.cursor = some w ∧
              s.now < s.deadlineOf q)) := by
  have hresynced := Registry.entry_update he s.log.cursor
  cases h with
  | stays hphase hturn => exact ⟨e, he, rfl, .inr ⟨rfl, rfl, .inl ⟨rfl, hphase⟩⟩⟩
  | waits hturn w hw htime =>
    have hstep : PollStep s events k q e _ none := .waits hturn w hw htime
    obtain ⟨w', hwaits⟩ := hstep.waiting hq hturn
    exact ⟨e, he, rfl, .inr ⟨rfl, rfl, .inr ⟨w', hwaits⟩⟩⟩
  | timesOut =>
    rw [dropPoll_eq hq]
    exact ⟨_, Registry.entry_release he k, rfl, .inl ⟨_, rfl, by simp, .inl rfl⟩⟩
  | overflows =>
    rw [dropPoll_withRegistry hq]
    exact ⟨_, Registry.entry_release hresynced k, rfl,
      .inl ⟨_, rfl, by simp [Log.overflow], .inl rfl⟩⟩
  | refuses hturn hlag hover hended =>
    rw [hlive] at hended
    cases hended
  | consumes =>
    rw [dropPoll_withRegistry hq]
    exact ⟨_, Registry.entry_release (Registry.entry_touch hresynced s.now) k, rfl,
      .inl ⟨_, rfl, by simp, .inr rfl⟩⟩

end Server

namespace Traffic

variable {t₀ t t' : Traffic} {config : ServerConfig} {epoch : Epoch} {ms : List Move} {m : Move}
  {id : SessionId} {u : SourceId} {since : Option Nat} {e e' : Entry} {i j k limit : Nat}

/-! ### Runs in which a client keeps in touch -/

/-- Whether a request that presents an id is under way. -/
def UnderWay (t : Traffic) (id : SessionId) (k : Nat) : Prop := t.Presents id k ∧ k ∈ t.tickets

/-- Whether a request has looked its session up. -/
def hasLooked (t : Traffic) (k : Nat) : Bool :=
  match t.paused.lookup k with
  | some (.seeking _ _) => false
  | some (.expiring _ _) | some (.enlisting _) | some (.closing _) | some (.sweeping _)
  | some (.liningUp _) | none => true

/-- Whether an answer brings an id. -/
def Grants (id : SessionId) : Outcome Served → Prop
  | .ok (.session id') => id' = id
  | .ok .done | .ok (.changed _) | .ok (.batch _) | .ok (.swept _) | .error _ => False

instance (id : SessionId) : (a : Outcome Served) → Decidable (Grants id a)
  | .ok (.session id') => inferInstanceAs (Decidable (id' = id))
  | .ok .done | .ok (.changed _) | .ok (.batch _) | .ok (.swept _) | .error _ => .isFalse fun h => h

/-- Whether a note says that a client has got an id, or that a request of it has ended; of the
requests that are given up only those are taken that count. -/
def Ends (counts : Traffic → Nat → Bool) (id : SessionId) (t : Traffic) : Note → Prop
  | .answered k a => t.Presents id k ∨ Grants id a
  | .aborted k => t.Presents id k ∧ counts t k = true
  | .arrived _ _ | .published _ | .opened _ _ _ | .turned _ _ | .polled _ _ _ => False

instance (counts : Traffic → Nat → Bool) (id : SessionId) (t : Traffic) :
    (n : Note) → Decidable (Ends counts id t n)
  | .answered k a => inferInstanceAs (Decidable (t.Presents id k ∨ Grants id a))
  | .aborted k => inferInstanceAs (Decidable (t.Presents id k ∧ counts t k = true))
  | .arrived _ _ | .published _ | .opened _ _ _ | .turned _ _ | .polled _ _ _ => .isFalse fun h => h

/-- When a request that presents an id, or the one that got it, has last ended, after a move. -/
def heard (counts : Traffic → Nat → Bool) (id : SessionId) (t t' : Traffic) (since : Option Nat) :
    Option Nat :=
  if ∃ n ∈ t'.notes.drop t.notes.length, t.Ends counts id n.2 then some t.server.now else since

/-- Whether a move is as it should be for a client whose last request ended at an instant: it comes
again in time, with one request after the other, and does not end its session; and time does not
pass while a request of it can go on. -/
def Suits (config : ServerConfig) (id : SessionId) (since : Option Nat) (t : Traffic) : Move → Prop
  | .arrive r => r.current = some id → r ≠ .closeSession (some id) ∧
      (∀ q ∈ t.arrivals, q.2.current = some id → q.1 ∉ t.tickets) ∧
        ∃ i ∈ since, t.server.now < i + config.leeway
  | .pass nanos => (∀ q ∈ t.paused, q.2.about? ≠ some id.source) ∧
      ∀ q ∈ t.server.polls, q.2.source = id.source →
        ∃ due ∈ Server.pollDue? q.2, t.server.now + nanos ≤ due
  | .resume _ | .abort _ | .publish _ _ _ => True

instance (config : ServerConfig) (id : SessionId) (since : Option Nat) (t : Traffic) :
    (m : Move) → Decidable (Suits config id since t m)
  | .arrive r => inferInstanceAs (Decidable (r.current = some id → r ≠ .closeSession (some id) ∧
      (∀ q ∈ t.arrivals, q.2.current = some id → q.1 ∉ t.tickets) ∧
        ∃ i ∈ since, t.server.now < i + config.leeway))
  | .pass nanos => inferInstanceAs (Decidable ((∀ q ∈ t.paused, q.2.about? ≠ some id.source) ∧
      ∀ q ∈ t.server.polls, q.2.source = id.source →
        ∃ due ∈ Server.pollDue? q.2, t.server.now + nanos ≤ due))
  | .resume _ | .abort _ | .publish _ _ _ => .isTrue trivial

/-- Whether a client keeps in touch all through a run. -/
def KeepsInTouch (counts : Traffic → Nat → Bool) (config : ServerConfig) (id : SessionId) :
    Option Nat → Traffic → List Move → Prop
  | _, _, [] => True
  | since, t, m :: ms => t.Suits config id since m ∧
      ∀ t', t.step m = some t' → KeepsInTouch counts config id (t.heard counts id t' since) t' ms

/-- When a request that presents an id, or the one that got it, has last ended in a run. -/
def lastHeard (counts : Traffic → Nat → Bool) (id : SessionId) :
    Option Nat → Traffic → List Move → Option Nat
  | since, _, [] => since
  | since, t, m :: ms =>
    match t.step m with
    | none => since
    | some t' => lastHeard counts id (t.heard counts id t' since) t' ms

/-- Whether a client that last ended a request at an instant can still come again in time, or has
come. -/
def InTouch (t : Traffic) (id : SessionId) (limit : Nat) : Prop :=
  t.server.now < limit ∨ ∃ k, t.UnderWay id k

/-! ### Where the requests of that client stand -/

/-- Where a request stands that presents the id of a session, if the client keeps in touch. -/
inductive Stands (t : Traffic) (u : SourceId) (e : Entry) (limit k : Nat) : Prop where
  | seeks (aim : Aim) (hp : t.paused.lookup k = some (.seeking u aim))
      (hnow : t.server.now < limit)
  | linesUp (hp : t.paused.lookup k = some (.liningUp u)) (hnow : e.lastAccess = t.server.now)
  | queues (hq : t.server.poll? k = some ⟨u, .queued⟩) (hnow : e.lastAccess = t.server.now)
  | waits (last : Int) (deadline : Nat) (w : Wait)
      (hq : t.server.poll? k = some ⟨u, .waiting last deadline w⟩)
      (hs : Server.Schedule t.server.config e.lastAccess deadline w)
      (hnow : t.server.now ≤ min deadline w.due)

theorem Stands.congr (h : t.Stands u e limit k)
    (hpaused : t'.paused.lookup k = t.paused.lookup k)
    (hpolls : t'.server.poll? k = t.server.poll? k) (hnow : t'.server.now = t.server.now)
    (hconfig : t'.server.config = t.server.config) (haccess : e'.lastAccess = e.lastAccess) :
    t'.Stands u e' limit k := by
  cases h with
  | seeks aim hp hlt => exact .seeks aim (hpaused.trans hp) (hnow ▸ hlt)
  | linesUp hp heq => exact .linesUp (hpaused.trans hp) ((haccess.trans heq).trans hnow.symm)
  | queues hq heq => exact .queues (hpolls.trans hq) ((haccess.trans heq).trans hnow.symm)
  | waits last deadline w hq hs hle =>
    exact .waits last deadline w (hpolls.trans hq) (hconfig ▸ haccess ▸ hs) (hnow ▸ hle)

/-- Who has looked its session up has done so not long ago. -/
theorem Stands.now_le (h : t.Stands u e limit k) (hvalid : t.server.config.validate = .ok ()) :
    t.server.now < limit ∨ t.server.now ≤ e.lastAccess + t.server.config.maxWait.nanos := by
  cases h with
  | seeks aim hp hlt => exact .inl hlt
  | linesUp hp heq | queues hq heq => exact .inr (by omega)
  | waits last deadline w hq hs hle =>
    have := hs.due_le hvalid
    exact .inr (by omega)

/-- What holds of a session whose client keeps in touch and last ended a request at an instant. -/
structure Kept (config : ServerConfig) (id : SessionId) (i : Nat) (t : Traffic) (e : Entry) :
    Prop where
  entry : t.server.registry.entry? id.source = some e
  past : i ≤ t.server.now
  recent : i ≤ e.lastAccess + config.maxWait.nanos
  stands : ∀ k, t.UnderWay id k → t.Stands id.source e (i + config.leeway) k
  listed : t.InTouch id (i + config.leeway) → e.listed = true
  unexpired : t.InTouch id (i + config.leeway) →
    .expired id.source ∉ t.server.registry.feed.sent

/-- What holds of a run in which a client keeps in touch. -/
structure Attended (config : ServerConfig) (id : SessionId) (since : Option Nat) (t : Traffic) :
    Prop extends Sound t where
  traced : t.Traced
  addressed : t.Addressed
  config_eq : t.server.config = config
  epoch_eq : id.epoch = t.server.epoch
  ttl_eq : t.server.registry.ttl = config.sessionTtl
  /-- The requests of that client come one after the other. -/
  single : ∀ {j k}, t.UnderWay id j → t.UnderWay id k → j = k
  made : ∀ {k e}, t.paused.lookup k = some (.enlisting e) → e.session.source = id.source →
    e.lastAccess = t.server.now
  absent : since = none → (∀ k, ¬ t.Presents id k) ∧
    t.server.registry.entry? id.source = none ∧
    .expired id.source ∉ t.server.registry.feed.sent
  kept : ∀ {i}, since = some i → ∃ e, t.Kept config id i e
  served : ∀ {k a}, t.Presents id k → .answered k a ∈ t.told → a ≠ .error .invalidSession

/-! ### What a move does to those requests -/

/-- An id comes with a session that is put on the list. -/
theorem enlisting_of_grants {a : Outcome Served} (ha : t.Answers m k a) (hid : Grants id a) :
    ∃ e, m = .resume k ∧ t.paused.lookup k = some (.enlisting e) ∧
      id = ⟨t.server.epoch, e.session.source⟩ := by
  cases ha with
  | atOnce r a hst =>
    cases a with
    | error fault => cases hid
    | ok reply => exact absurd hst (Server.receive_ne_ok _ _ _)
  | goesOn k p a hp hst =>
    cases p with
    | enlisting e =>
      cases hst
      exact ⟨e, rfl, hp, Eq.symm hid⟩
    | seeking u aim =>
      simp only [Server.proceed] at hst
      split at hst
      · cases aim <;> cases hst
        all_goals cases hid
      · cases hst
      · cases aim <;> cases hst
        all_goals cases hid
    | expiring u aim =>
      cases aim <;> cases hst
      all_goals cases hid
    | closing u =>
      simp only [Server.proceed] at hst
      split at hst <;> cases hst
      all_goals cases hid
    | sweeping =>
      cases hst
      cases hid
    | liningUp => cases hst
  | polls k q b hq hb => cases b <;> cases hid

/-- A move answers a request once. -/
theorem Answers.unique {a a' : Outcome Served} (ha : t.Answers m k a) (h : t.Sound)
    (ha' : t.Answers m k a') : a = a' := by
  cases ha with
  | atOnce r a hst =>
    cases ha' with
    | atOnce _ _ hst' =>
      cases hst.symm.trans hst'
      rfl
  | goesOn k p a hp hst =>
    cases ha' with
    | goesOn _ _ _ hp' hst' =>
      cases hp.symm.trans hp'
      cases hst.symm.trans hst'
      rfl
    | polls _ q b hq => cases (h.poll_eq_none hp).symm.trans hq
  | polls k q b hq hb =>
    cases ha' with
    | goesOn _ _ _ hp => cases (h.poll_eq_none hp).symm.trans hq
    | polls _ _ _ hq' hb' =>
      cases hb.symm.trans hb'
      rfl

theorem Answers.eq_of_resume {a : Outcome Served} (ha : t.Answers (.resume k) j a) : j = k := by
  cases ha <;> rfl

/-- Which moves end a request that presents an id, or the one that gets it. -/
theorem ends_iff {counts : Traffic → Nat → Bool} (h : t.Sound) (ht : t.step m = some t') :
    (∃ n ∈ t'.notes.drop t.notes.length, t.Ends counts id n.2) ↔
      (∃ k a, t.Answers m k a ∧ (t.Presents id k ∨ Grants id a)) ∨
        ∃ k, m = .abort k ∧ t.Presents id k ∧ counts t k = true := by
  obtain ⟨ns, hns⟩ := notes_step h ht
  rw [hns.notes, List.drop_left]
  constructor
  · rintro ⟨n, hn, hends⟩
    obtain ⟨note, hnote, rfl⟩ := List.mem_map.1 hn
    cases note with
    | answered k a => exact .inl ⟨k, a, (hns.answered k a).1 hnote, hends⟩
    | aborted k => exact .inr ⟨k, (hns.aborted k).1 hnote, hends⟩
    | arrived | published | opened | turned | polled => cases hends
  · rintro (⟨k, a, ha, hwho⟩ | ⟨k, hm, hwho⟩)
    · exact ⟨_, List.mem_map_of_mem ((hns.answered k a).2 ha), hwho⟩
    · exact ⟨_, List.mem_map_of_mem ((hns.aborted k).2 hm), hwho⟩

theorem not_expired_step (h : t.Sound) (ht : t.step m = some t') (hnot : ¬ t.Expires m u)
    (hold : .expired u ∉ t.server.registry.feed.sent) :
    .expired u ∉ t'.server.registry.feed.sent := by
  rw [(tells_news h ht).sent, List.mem_append]
  rintro (hsent | hnew)
  · exact hold hsent
  · exact hnot ((expired_mem_news_iff h).1 hnew)

/-- Who has been given up is not under way. -/
theorem not_mem_tickets_of_abort (h : t.Sound) (ht : t.step (.abort k) = some t') :
    k ∉ t'.tickets := by
  have hnodup := List.nodup_append.1 h.tickets
  intro hk
  cases happens_of_step ht with
  | leaves _ p hp => exact h.not_mem_take hp hk
  | hangsUp _ q hnone hq =>
    rcases List.mem_append.1 hk with hpaused | hpolls
    · exact Tickets.not_mem_of_lookup hnone hpaused
    · simp only [note] at hpolls
      rw [Server.dropPoll_eq hq] at hpolls
      obtain ⟨q', hq', rfl⟩ := List.mem_map.1 hpolls
      exact (Tickets.mem_without.1 hq').2 rfl

/-- Whether a move is not one of the client that has an id, nor puts its session on the list. -/
structure Foreign (id : SessionId) (t : Traffic) (m : Move) : Prop where
  arrives : ∀ {r}, m = .arrive r → r.current ≠ some id
  goesOn : ∀ {k}, m = .resume k ∨ m = .abort k → ¬ t.UnderWay id k
  enlists : ∀ {k e}, m = .resume k → t.paused.lookup k = some (.enlisting e) →
    e.session.source ≠ id.source

namespace Attended

variable (h : t.Attended config id since)
include h

theorem id_eq : (⟨t.server.epoch, id.source⟩ : SessionId) = id := by rw [← h.epoch_eq]

/-- Who is under way was so before, or has just arrived. -/
theorem underWay_step (ht : t.step m = some t') (hj : t'.UnderWay id j) :
    t.UnderWay id j ∨ ∃ r, m = .arrive r ∧ j = t.ticket ∧ r.current = some id := by
  obtain ⟨hpresents, hticket⟩ := hj
  rcases presents_step h.toSound ht hpresents with hold | hnew
  · rcases tickets_step h.toSound ht hticket with hticket | ⟨r, -, rfl⟩
    · exact .inl ⟨hold, hticket⟩
    · obtain ⟨r', hr', -⟩ := hold
      exact absurd (h.traced.lt_of_mem hr') (Nat.lt_irrefl _)
  · exact .inr hnew

/-- Who stops for the session or polls on it presents the id, or has made the session. -/
theorem underWay_of_touches (hk : t.Touches k id.source) : t.UnderWay id k ∨
    ∃ e, t.paused.lookup k = some (.enlisting e) ∧ e.session.source = id.source := by
  refine (h.addressed.presents_of_touches hk).imp_left fun hpresents => ?_
  rw [h.id_eq] at hpresents
  refine ⟨hpresents, ?_⟩
  rcases hk with ⟨p, hp, -⟩ | ⟨q, hq, -⟩
  · exact mem_tickets_of_paused hp
  · exact mem_tickets_of_poll hq

/-- A session that is in touch has not been idle for too long. -/
theorem now_lt (hk : t.Kept config id i e) (hvalid : config.validate = .ok ())
    (hlt : config.maxWait.nanos < config.sessionTtl.nanos)
    (hin : t.InTouch id (i + config.leeway)) :
    t.server.now < e.lastAccess + config.sessionTtl.nanos := by
  have hrecent := hk.recent
  unfold ServerConfig.leeway at hin
  rcases hin with hlater | ⟨k, hunder⟩
  · omega
  · rcases (hk.stands k hunder).now_le (h.config_eq ▸ hvalid) with hlater | hwaits
    · unfold ServerConfig.leeway at hlater
      omega
    · rw [h.config_eq] at hwaits
      omega

theorem not_expires (hk : t.Kept config id i e) (hvalid : config.validate = .ok ())
    (hlt : config.maxWait.nanos < config.sessionTtl.nanos)
    (hin : t.InTouch id (i + config.leeway)) : ¬ t.Expires m id.source := by
  have hnow := h.now_lt hk hvalid hlt hin
  rintro ⟨k, e', -, hlive, hidle⟩
  cases hk.entry.symm.trans (Registry.live?_eq_some_iff.1 hlive).1
  simp only [h.ttl_eq, Entry.idle] at hidle
  rcases hidle with ⟨aim, -, hidle⟩ | ⟨since, hsweep, -, hidle⟩
  · omega
  · -- a sweep goes by the instant at which it was asked for, which is past
    have hpast : since ≤ t.server.now := h.fits _ (Tickets.mem_of_lookup hsweep)
    omega

end Attended

/-! ### What the requests of that client do -/

/-- The wait of a poll whose session was last looked up when the poll got the turn. -/
theorem schedule_of_stands {p : Poll} {w : Wait}
    (hs : p.phase = .queued ∧ e.lastAccess = t.server.now ∨ ∃ last deadline w₀,
      p.phase = .waiting last deadline w₀ ∧
        Server.Schedule t.server.config e.lastAccess deadline w₀)
    (hw : (t.server.waitOf p e.session).advance t.server.now t.server.log.cursor = some w) :
    Server.Schedule t.server.config e.lastAccess (t.server.deadlineOf p) w := by
  obtain ⟨-, hmin, hmax⟩ := Wait.advance_keeps hw
  rcases hs with ⟨hphase, hnow⟩ | ⟨last, deadline, w₀, hphase, hs⟩
  · simp only [Server.waitOf, Server.deadlineOf, hphase] at hmin hmax ⊢
    rw [hnow]
    exact ⟨hmin, hmax, rfl⟩
  · simp only [Server.waitOf, Server.deadlineOf, hphase] at hmin hmax ⊢
    exact ⟨hmin.trans hs.minDue, hmax.trans hs.maxDue, hs.deadline⟩

/-- What becomes of a request of that client when it goes on: it is served, or stands where it
should. -/
structure Advances (config : ServerConfig) (id : SessionId) (limit k : Nat) (t t' : Traffic)
    (e' : Entry) : Prop where
  entry : t'.server.registry.entry? id.source = some e'
  listed : e'.listed = true
  recent : t.server.now ≤ e'.lastAccess + config.maxWait.nanos
  stands : (∃ a, t.Answers (.resume k) k a ∧ a ≠ .error .invalidSession) ∨
    (∀ a, ¬ t.Answers (.resume k) k a) ∧ t'.Stands id.source e' limit k

/-- Who seeks its session finds it. -/
theorem advances_of_seeking (h : t.Sound) (he : t.server.registry.entry? id.source = some e)
    (hlisted : e.listed = true)
    (hidle : e.idle t.server.now < t.server.registry.ttl.nanos) {aim : Aim}
    (hp : t.paused.lookup k = some (.seeking id.source aim)) (ht : t.step (.resume k) = some t') :
    ∃ e', Advances config id limit k t t' e' := by
  have hstale : t.server.registry.isStale t.server.now e = false :=
    decide_eq_false (Nat.not_le_of_lt hidle)
  have hgoes := Server.proceed_seeking_of_live (Registry.live?_eq_some_iff.2 ⟨he, hlisted⟩) hstale
    k aim
  obtain ⟨⟨e', he', haccess, hlisted'⟩, hst⟩ := Server.found_of_entry
    (s := t.server.withRegistry (t.server.registry.modify id.source (·.touch t.server.now)))
    (Registry.entry_touch he t.server.now) aim
  rw [← hgoes] at he' hst
  have hnow : e'.lastAccess = t.server.now := haccess
  cases (resume_of_paused hp).symm.trans ht
  refine ⟨e', ?_, hlisted'.trans hlisted, by omega, ?_⟩
  · rw [next, server_settle]
    exact he'
  · rcases hst with ⟨a, hst, hne⟩ | hst
    · exact .inl ⟨a, .goesOn k _ a hp hst, hne⟩
    · refine .inr ⟨fun a ha => ?_, .linesUp ?_ ?_⟩
      · cases hst.symm.trans ((answers_iff_of_paused h hp).1 ha).2
      · rw [next, lookup_goesOn, if_pos rfl, hst]
        rfl
      · rw [next, server_settle, hnow]
        exact (Server.steady_proceed t.server k _).now.symm

/-- Who lines up waits for the turn. -/
theorem advances_of_lining (h : t.Sound) (he : t.server.registry.entry? id.source = some e)
    (hlisted : e.listed = true) (hnow : e.lastAccess = t.server.now)
    (hp : t.paused.lookup k = some (.liningUp id.source)) (ht : t.step (.resume k) = some t') :
    ∃ e', Advances config id limit k t t' e' := by
  have hentry : Registry.entry? (t.server.registry.enqueue id.source k) id.source =
      some { e with queue := e.queue ++ [k] } := Registry.entry_modify_self he fun _ => rfl
  cases (resume_of_paused hp).symm.trans ht
  refine ⟨_, hentry, hlisted, by rw [hnow]; omega, .inr ⟨fun a ha => ?_, .queues ?_ hnow⟩⟩
  · cases ((answers_iff_of_paused h hp).1 ha).2
  · exact (Tickets.lookup_concat (h.poll_eq_none hp) _ k).trans (if_pos rfl)

/-- Who polls waits on until it is due, or is served. -/
theorem advances_of_poll (h : t.Sound) {p : Poll} (hp : t.server.poll? k = some p)
    (hsource : p.source = id.source)
    (he : t.server.registry.entry? id.source = some e) (hlisted : e.listed = true)
    (hs : p.phase = .queued ∧ e.lastAccess = t.server.now ∨ ∃ last deadline w₀,
      p.phase = .waiting last deadline w₀ ∧
        Server.Schedule t.server.config e.lastAccess deadline w₀)
    (hnow : t.server.now ≤ e.lastAccess + config.maxWait.nanos)
    (ht : t.step (.resume k) = some t') : ∃ e', Advances config id limit k t t' e' := by
  have hlive : e.session.invalidated = false := by rw [h.settled.of_entry he, hlisted]; rfl
  rw [← hsource] at he
  have hstep := h.orderly.pollStep h.ring hp he
  obtain ⟨e', he', hlisted', hcases⟩ := hstep.of_live hp he hlive
  have hsteady := hstep.steady
  cases happens_of_step ht with
  | goesOn _ p' hp' => cases (h.paused_eq_none hp).symm.trans hp'
  | polls _ p' hnone hp' =>
    cases hp.symm.trans hp'
    rw [hsource] at he'
    refine ⟨e', he', hlisted'.trans hlisted, ?_, ?_⟩
    · rcases hcases with ⟨b, -, -, haccess | haccess⟩ | ⟨-, rfl, -⟩ <;> omega
    · rcases hcases with ⟨b, hb, hne, -⟩ | ⟨hnone', rfl, hstands⟩
      · refine .inl ⟨b.map .batch, .polls k p b hp hb, ?_⟩
        cases b with
        | ok => simp [Except.map]
        | error fault =>
          intro heq
          cases heq
          exact hne rfl
      · refine .inr ⟨fun a ha => ?_, ?_⟩
        · obtain ⟨-, b, hb, -⟩ := (answers_iff_of_poll h hp).1 ha
          cases hnone'.symm.trans hb
        · rcases hstands with ⟨hsame, hphase⟩ | ⟨w, hwaits, hw, htime⟩
          · have haccess : e'.lastAccess = t.server.now := by
              rcases hs with ⟨-, haccess⟩ | ⟨last, deadline, w₀, hwaits, -⟩
              · exact haccess
              · cases hphase.symm.trans hwaits
            refine .queues ?_ (haccess.trans hsteady.now.symm)
            rw [note, hsame, hp, ← hsource, ← hphase]
          · have hschedule := schedule_of_stands hs hw
            have hdue := Wait.due_gt_of_advance hw
            refine .waits _ _ w (hsource ▸ hwaits) ?_ ?_
            · simp only [note]
              rw [hsteady.config]
              exact hschedule
            · simp only [note]
              rw [hsteady.now]
              omega

end Traffic
end EventRelay
