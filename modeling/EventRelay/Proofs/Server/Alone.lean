/-
# A run without the requests of other sessions

From a run those requests are taken out that carry the ids of other sessions and not that of one
session in particular (`Server.Request.Stays`): what is left is again a run, in which the requests
have other tickets (`Traffic.place`).  Of the moves, `Traffic.alone` leaves out the arrivals of the
others and whatever they do after.  It leaves out one thing more: the request that opens the session
may present the id of another one, and find it idle; then it takes a step to end it, which it does
not take without it (`Traffic.findsIdle`).

Here is what this rests on in a single run: who stays stops for the session, opens one or sweeps, and
who does not stay does none of that (`Traffic.Tracked`).
-/

import EventRelay.Proofs.Server.Shared

namespace EventRelay

namespace Tickets

/-- The place of a ticket in a list of tickets; those that are not in the list come after it. -/
def place (ks : List Nat) (k : Nat) : Nat := if k ∈ ks then ks.idxOf k else ks.length + k

theorem place_injective (ks : List Nat) : (place ks).Injective := by
  intro j k hjk
  unfold place at hjk
  split at hjk <;> split at hjk
  · exact (List.idxOf_inj ‹_›).1 hjk
  · have := List.idxOf_lt_length_of_mem ‹j ∈ ks›
    omega
  · have := List.idxOf_lt_length_of_mem ‹k ∈ ks›
    omega
  · omega

theorem place_append {ks : List Nat} {k : Nat} (hk : k ∈ ks) (js : List Nat) :
    place (ks ++ js) k = place ks k := by
  rw [place, if_pos (List.mem_append_left _ hk), place, if_pos hk, List.idxOf_append_of_mem hk]

theorem place_concat {ks : List Nat} {k : Nat} (hk : k ∉ ks) : place (ks ++ [k]) k = ks.length := by
  rw [place, if_pos (List.mem_append_right _ List.mem_cons_self), List.idxOf_append_of_notMem hk,
    List.idxOf_cons_self, Nat.add_zero]

end Tickets

namespace Server

/-- Whether a server differs from another in nothing that a session is told or keeps. -/
structure Spares (u : SourceId) (s s' : Server) : Prop extends s.Steady s' where
  ttl : s'.registry.ttl = s.registry.ttl
  entry : s'.registry.entry? u = s.registry.entry? u

theorem Spares.refl (u : SourceId) (s : Server) : s.Spares u s := ⟨⟨rfl, rfl, rfl, rfl⟩, rfl, rfl⟩

theorem Shares.of_spares {σ : Nat → Nat} {u : SourceId} {s s₁ s' s₁' : Server}
    (h : s.Shares σ u s') (hl : s.Spares u s₁) (hr : s'.Spares u s₁') : s₁.Shares σ u s₁' where
  config := by rw [hl.config, hr.config, h.config]
  epoch := by rw [hl.epoch, hr.epoch, h.epoch]
  log := by rw [hl.log, hr.log, h.log]
  now := by rw [hl.now, hr.now, h.now]
  registry := h.registry.of_eq hl.ttl hr.ttl hl.entry hr.entry

/-- A request goes on that will not find the session it looks for, or comes to end it. -/
theorem proceed_of_misses {s : Server} {p : Pause} {v : SourceId} {aim : Aim}
    (hp : p = .seeking v aim ∧ s.registry.live? v = none ∨ p = .expiring v aim) (k : Nat) :
    (s.proceed k p).2 = s.missed aim ∧ (s.proceed k p).1.polls = s.polls := by
  rcases hp with ⟨rfl, hnone⟩ | rfl
  · rw [proceed_seeking_of_absent hnone]
    exact ⟨rfl, rfl⟩
  · exact ⟨rfl, rfl⟩

/-- Whether a request stays when those of other sessions are taken out: it presents the id of the
session, or asks for the session, or carries no id at all. -/
def Request.Stays (id : SessionId) (r : Request) : Prop :=
  r.current = some id ∨ r.fresh? = some id.source ∨ r.current = none ∧ r.fresh? = none

instance (id : SessionId) (r : Request) : Decidable (r.Stays id) :=
  inferInstanceAs (Decidable (_ ∨ _ ∨ _))

namespace Request.Stays

variable {id : SessionId} {r : Request}

/-- Who stays and does not open the session names no other. -/
theorem eq_of_names {v : SourceId} (h : r.Stays id) (hv : r.Names v)
    (hfresh : r.fresh? ≠ some id.source) : v = id.source := by
  rcases h with hcurrent | hopens | ⟨hnone, -⟩
  · rw [Names, hcurrent] at hv
    exact (Option.some.inj hv).symm
  · exact absurd hopens hfresh
  · rw [Names, hnone] at hv
    cases hv

theorem eq_or_opens {v : SourceId} {aim : Aim} (h : r.Stays id) (hv : r.Names v)
    (haim : r.aim? = some aim) : v = id.source ∨ aim = .opening id.source := by
  by_cases hfresh : r.fresh? = some id.source
  · right
    cases r with
    | openSession current fresh =>
      cases haim
      cases hfresh
      rfl
    | closeSession | subscribe | unsubscribe | lookup | poll | sweep => cases hfresh
  · exact .inl (h.eq_of_names hv hfresh)

/-- Where a request stops that stays: for the session, or to put one on the list, or to sweep, or
for another session whose id it presents when it opens the session. -/
theorem stops {p : Pause} (h : r.Stays id) (hp : r.Reaches p) :
    (p.about? = some id.source ∨ (∃ e, p = .enlisting e) ∨ ∃ since, p = .sweeping since) ∨
      ∃ v, p = .seeking v (.opening id.source) ∨ p = .expiring v (.opening id.source) := by
  cases p with
  | seeking v aim =>
    rcases h.eq_or_opens hp.1 hp.2 with rfl | rfl
    · exact .inl (.inl rfl)
    · exact .inr ⟨v, .inl rfl⟩
  | expiring v aim =>
    rcases h.eq_or_opens hp.1 hp.2 with rfl | rfl
    · exact .inl (.inl rfl)
    · exact .inr ⟨v, .inr rfl⟩
  | enlisting e => exact .inl (.inr (.inl ⟨e, rfl⟩))
  | closing v =>
    refine .inl (.inl (congrArg some (h.eq_of_names hp.1 ?_)))
    rw [hp.2]
    simp [Request.fresh?]
  | sweeping since => exact .inl (.inr (.inr ⟨since, rfl⟩))
  | liningUp v =>
    rcases h.eq_or_opens hp.1 hp.2 with rfl | haim
    · exact .inl (.inl rfl)
    · cases haim

end Request.Stays
end Server

namespace Traffic

variable {t t' t₀ : Traffic} {config : ServerConfig} {epoch : Epoch} {id : SessionId} {m : Move}
  {ms : List Move} {j k : Nat} {u v : SourceId} {r : Server.Request} {p : Pause}

/-- The requests that stay when those of other sessions are taken out. -/
def staying (t : Traffic) (id : SessionId) : List (Nat × Server.Request) :=
  t.arrivals.filter fun q => q.2.Stays id

/-- The tickets of the requests that stay. -/
def own (t : Traffic) (id : SessionId) : List Nat := (t.staying id).map Prod.fst

/-- The ticket that a request has once those of other sessions are taken out. -/
def place (t : Traffic) (id : SessionId) : Nat → Nat := Tickets.place (t.own id)

/-- Whether the request of a ticket, which opens the session of a source, finds another one idle
whose id it presents. -/
def findsIdle (t : Traffic) (u : SourceId) (k : Nat) : Bool :=
  match t.paused.lookup k with
  | some (.seeking v (.opening w)) =>
    w = u && (t.server.registry.live? v).any (t.server.registry.isStale t.server.now)
  | _ => false

/-- What is left of a move. -/
def kept (t : Traffic) (id : SessionId) : Move → Option Move
  | .arrive r => if r.Stays id then some (.arrive r) else none
  | .resume k =>
    if k ∈ t.own id ∧ t.findsIdle id.source k = false then some (.resume (t.place id k)) else none
  | .abort k => if k ∈ t.own id then some (.abort (t.place id k)) else none
  | .publish stamp typeId payload => some (.publish stamp typeId payload)
  | .pass nanos => some (.pass nanos)

/-- The moves of a run without the requests of other sessions. -/
def alone (id : SessionId) : Traffic → List Move → List Move
  | _, [] => []
  | t, m :: ms => (t.kept id m).toList ++
      match t.step m with
      | none => []
      | some t' => alone id t' ms

/-! ### Who stays -/

theorem mem_staying {q : Nat × Server.Request} :
    q ∈ t.staying id ↔ q ∈ t.arrivals ∧ q.2.Stays id := by
  simp [staying]

theorem mem_own : k ∈ t.own id ↔ ∃ r, (k, r) ∈ t.arrivals ∧ r.Stays id := by
  constructor
  · intro hk
    obtain ⟨⟨k, r⟩, hq, rfl⟩ := List.mem_map.1 hk
    exact ⟨r, mem_staying.1 hq⟩
  · rintro ⟨r, hr, hstays⟩
    exact List.mem_map.2 ⟨(k, r), mem_staying.2 ⟨hr, hstays⟩, rfl⟩

theorem place_injective (t : Traffic) (id : SessionId) : (t.place id).Injective :=
  Tickets.place_injective _

theorem staying_arrive (h : t.Sound) (ht : t.step (.arrive r) = some t') : t'.staying id =
    t.staying id ++ if r.Stays id then [(t.ticket, r)] else [] := by
  rw [staying, arrivals_step h ht, List.filter_append, List.filter_singleton]
  by_cases hstays : r.Stays id <;> simp [hstays, staying]

theorem own_arrive (h : t.Sound) (hr : r.Stays id) (ht : t.step (.arrive r) = some t') :
    t'.own id = t.own id ++ [t.ticket] := by
  rw [own, staying_arrive h ht, if_pos hr, List.map_append]
  rfl

/-- Whoever arrives leaves the other tickets as they are. -/
theorem place_arrive (h : t.Sound) (hr : r.Stays id) (ht : t.step (.arrive r) = some t')
    (hk : k ∈ t.own id) : t'.place id k = t.place id k := by
  rw [place, own_arrive h hr ht]
  exact Tickets.place_append hk _

/-- Nobody arrives in any other move. -/
theorem arrivals_step_of_ne (h : t.Sound) (ht : t.step m = some t') (hm : ∀ r, m ≠ .arrive r) :
    t'.arrivals = t.arrivals := by
  rw [arrivals_step h ht]
  cases m with
  | arrive r => exact absurd rfl (hm r)
  | resume | abort | publish | pass => exact List.append_nil _

/-- The settings, the log and the clock change only when an event is published or time passes. -/
theorem steady_step (h : t.Sound) (ht : t.step m = some t')
    (hpublish : ∀ stamp typeId payload, m ≠ .publish stamp typeId payload)
    (hpass : ∀ nanos, m ≠ .pass nanos) : t.server.Steady t'.server := by
  cases happens_of_step ht with
  | arrives r hr =>
    rw [arrive, server_settle]
    exact ⟨rfl, rfl, rfl, rfl⟩
  | goesOn k p hp =>
    rw [server_settle]
    exact Server.steady_proceed t.server k p
  | polls k q hk hq =>
    obtain ⟨e, he⟩ := h.orderly.entry_of_poll hq
    exact (h.orderly.pollStep h.ring hq he).steady
  | leaves k p hp => exact ⟨rfl, rfl, rfl, rfl⟩
  | hangsUp k q hk hq => exact Server.steady_dropPoll t.server k
  | publishes stamp typeId payload => exact absurd rfl (hpublish stamp typeId payload)
  | passes nanos => exact absurd rfl (hpass nanos)

/-- Whoever is known has been named. -/
theorem named_of_knows (hu : t.knows u = true) :
    ∃ k r, (k, r) ∈ t.arrivals ∧ (r.Names u ∨ r.fresh? = some u) := by
  obtain ⟨⟨instant, note⟩, hn, hmentions⟩ := List.any_eq_true.1 hu
  cases note with
  | arrived k r =>
    refine ⟨k, r, List.mem_filterMap.2 ⟨.arrived k r, mem_told.2 ⟨instant, hn⟩, rfl⟩, ?_⟩
    simpa [Note.mentions, Server.Request.mentions, Server.Request.Names] using hmentions
  | published | opened | turned | polled | answered | aborted => cases hmentions

theorem findsIdle_iff : t.findsIdle u k = true ↔ ∃ v e,
    t.paused.lookup k = some (.seeking v (.opening u)) ∧ t.server.registry.live? v = some e ∧
      t.server.registry.isStale t.server.now e = true := by
  unfold findsIdle
  constructor
  · intro hidle
    split at hidle
    · rename_i v w hp
      obtain ⟨hw, hany⟩ := Bool.and_eq_true_iff.1 hidle
      obtain ⟨e, hlive, hstale⟩ := (Option.any_eq_true _ _).1 hany
      rw [of_decide_eq_true hw] at hp
      exact ⟨v, e, hp, hlive, hstale⟩
    · cases hidle
  · rintro ⟨v, e, hp, hlive, hstale⟩
    simp [hp, hlive, hstale]

/-! ### What the notes say of those who open sessions and ask for them -/

/-- What holds of a run: the notes say who has opened each session, and who stops for it. -/
structure Tracked (t : Traffic) : Prop where
  accounted : t.Accounted
  addressed : t.Addressed
  /-- A session is asked for once. -/
  once : ∀ {j k r r' u}, (j, r) ∈ t.arrivals → (k, r') ∈ t.arrivals → r.fresh? = some u →
    r'.fresh? = some u → j = k
  distinct : ∀ {k r u}, (k, r) ∈ t.arrivals → r.fresh? = some u → ¬ r.Names u

namespace Tracked

theorem sound (h : t.Tracked) : t.Sound := h.accounted.sound

theorem traced (h : t.Tracked) : t.Traced := h.accounted.traced

theorem new (hnew : Traffic.new config epoch = .ok t) : t.Tracked := by
  have haccounted := Accounted.new hnew
  have haddressed := Addressed.new hnew
  obtain ⟨log, -, rfl⟩ := eq_of_new hnew
  refine ⟨haccounted, haddressed, ?_, ?_⟩
  · intro j k r r' u hr
    cases hr
  · intro k r u hr
    cases hr

theorem step (h : t.Tracked) (ht : t.step m = some t') : t'.Tracked := by
  -- whoever arrives asks for a session that nobody has asked for
  have hfree : ∀ {r k r' u}, m = .arrive r → (k, r') ∈ t.arrivals → r.fresh? = some u →
      r'.fresh? ≠ some u := by
    rintro r k r' u rfl hr' hu hu'
    exact not_named_of_arrive ht hu hr' (.inr hu')
  refine ⟨h.accounted.step ht, h.addressed.step h.sound ht, fun hr hr' hu hu' => ?_,
    fun hr hu => ?_⟩
  · rcases arrived_step h.sound ht hr with hold | ⟨hm, rfl⟩ <;>
      rcases arrived_step h.sound ht hr' with hold' | ⟨hm', rfl⟩
    · exact h.once hold hold' hu hu'
    · exact absurd hu (hfree hm' hold hu')
    · exact absurd hu' (hfree hm hold' hu)
    · rfl
  · rcases arrived_step h.sound ht hr with hold | ⟨rfl, -⟩
    · exact h.distinct hold hu
    · cases happens_of_step ht with
      | arrives r hadmits =>
        simp only [admits, hu, Bool.and_eq_true, bne_iff_ne] at hadmits
        exact hadmits.2

theorem lt_ticket (h : t.Tracked) (hk : k ∈ t.own id) : k < t.ticket := by
  obtain ⟨r, hr, -⟩ := mem_own.1 hk
  exact h.traced.lt_of_mem hr

/-- Who arrives comes last. -/
theorem place_ticket (h : t.Tracked) (hr : r.Stays id) (ht : t.step (.arrive r) = some t') :
    t'.place id t.ticket = (t.own id).length := by
  rw [place, own_arrive h.sound hr ht]
  exact Tickets.place_concat fun hin => Nat.lt_irrefl _ (h.lt_ticket hin)

/-- Nobody has been answered with the next ticket. -/
theorem not_answered (h : t.Tracked) {instant : Nat} {a : Outcome Served} :
    (instant, .answered t.ticket a) ∉ t.notes := by
  intro hin
  obtain ⟨r, hr, -⟩ := h.traced.answered (mem_told.2 ⟨instant, hin⟩)
  exact Nat.lt_irrefl _ (h.traced.lt_of_mem hr)

/-- Somebody has asked for each session. -/
theorem asked (h : t.Tracked) (hu : u ∈ t.server.registry.sources) :
    ∃ k r, (k, r) ∈ t.arrivals ∧ r.fresh? = some u := by
  obtain ⟨n, hn⟩ := exists_standsAt hu
  obtain ⟨k, start, hopened, -⟩ := h.accounted.toured.tiled _ hn
  exact ⟨k, h.traced.made (mem_openings.1 hopened)⟩

theorem paused (h : t.Tracked) (hp : t.paused.lookup k = some p) :
    ∃ r, (k, r) ∈ t.arrivals ∧ r.Reaches p :=
  h.traced.paused _ (Tickets.mem_of_lookup hp)

/-- Where a request stops that stays. -/
theorem stops_of_own (h : t.Tracked) (hk : k ∈ t.own id) (hp : t.paused.lookup k = some p) :
    (p.about? = some id.source ∨ (∃ e, p = .enlisting e) ∨ ∃ since, p = .sweeping since) ∨
      ∃ v, v ≠ id.source ∧ (∃ r, (k, r) ∈ t.arrivals ∧ r.fresh? = some id.source ∧ r.Names v) ∧
        (p = .seeking v (.opening id.source) ∨ p = .expiring v (.opening id.source)) := by
  obtain ⟨r, hr, hreaches⟩ := h.paused hp
  obtain ⟨r', hr', hstays⟩ := mem_own.1 hk
  obtain rfl := h.traced.unique hr hr'
  refine (hstays.stops hreaches).imp_right ?_
  rintro ⟨v, hv⟩
  have hasks : r.Names v ∧ r.fresh? = some id.source := by
    rcases hv with rfl | rfl <;>
      exact ⟨hreaches.1, Server.Request.fresh?_of_aim? hreaches.2⟩
  refine ⟨v, ?_, ⟨r, hr, hasks.2, hasks.1⟩, hv⟩
  rintro rfl
  exact h.distinct hr hasks.2 hasks.1

/-- A poll that stays is one on the session. -/
theorem source_of_own (h : t.Tracked) (hk : k ∈ t.own id) {q : Poll}
    (hq : t.server.poll? k = some q) : q.source = id.source := by
  obtain ⟨r, hr, hreaches⟩ := h.traced.polls _ (Server.mem_polls_of_poll? hq)
  obtain ⟨r', hr', hstays⟩ := mem_own.1 hk
  obtain rfl := h.traced.unique hr hr'
  rcases hstays.stops hreaches with (habout | ⟨e, he⟩ | ⟨since, hs⟩) | ⟨v, hv | hv⟩
  · exact Option.some.inj habout
  · cases he
  · cases hs
  · cases hv
  · cases hv

/-- Who touches the session stays. -/
theorem own_of_touches (h : t.Tracked) (hepoch : t.server.epoch = id.epoch)
    (hk : t.Touches k id.source) : k ∈ t.own id := by
  rcases h.addressed.presents_of_touches hk with ⟨r, hr, hcurrent⟩ | ⟨e, hp, hu⟩
  · exact mem_own.2 ⟨r, hr, .inl (hcurrent.trans (by rw [hepoch]))⟩
  · obtain ⟨r, hr, hreaches⟩ := h.paused hp
    exact mem_own.2 ⟨r, hr, .inr (.inl (hu ▸ hreaches))⟩

/-- Who sweeps stays. -/
theorem own_of_sweeps (h : t.Tracked) {since : Nat}
    (hp : t.paused.lookup k = some (.sweeping since)) : k ∈ t.own id := by
  obtain ⟨r, hr, hreaches⟩ := h.paused hp
  refine mem_own.2 ⟨r, hr, .inr (.inr ?_)⟩
  rw [show r = .sweep from hreaches]
  exact ⟨rfl, rfl⟩

/-- Who queues up for the session stays. -/
theorem own_of_queues (h : t.Tracked) (hepoch : t.server.epoch = id.epoch) {e : Entry}
    (he : t.server.registry.entry? id.source = some e) (hk : k ∈ e.queue) : k ∈ t.own id := by
  have hline : e.queue = t.server.line id.source := by
    have hqueue := h.sound.orderly.queues _ (Registry.mark_mem_of_entry he)
    rwa [Entry.mark_source, Registry.source_of_entry he] at hqueue
  obtain ⟨q, hq, hsource⟩ := Server.mem_line.1 (hline ▸ hk)
  exact h.own_of_touches hepoch
    (.inr ⟨q, Tickets.lookup_of_mem h.sound.orderly.tickets hq, hsource⟩)

/-- **Who does not stay spares the session.** -/
theorem spares_of_others (h : t.Tracked) (hepoch : t.server.epoch = id.epoch)
    (ht : t.step m = some t') (hresume : ∀ k, m = .resume k → k ∉ t.own id)
    (habort : ∀ k, m = .abort k → k ∉ t.own id)
    (hpublish : ∀ stamp typeId payload, m ≠ .publish stamp typeId payload)
    (hpass : ∀ nanos, m ≠ .pass nanos) : t.server.Spares id.source t'.server := by
  refine ⟨steady_step h.sound ht hpublish hpass, (tells_news h.sound ht).ttl,
    entry_step_of_apart h.sound ht ?_ ?_ ?_⟩
  · exact fun k hm htouches => hresume k hm (h.own_of_touches hepoch htouches)
  · exact fun k q hm hq hsource =>
      habort k hm (h.own_of_touches hepoch (.inr ⟨q, hq, hsource⟩))
  · exact fun k since hm hp => hresume k hm (h.own_of_sweeps hp)

/-- So does a request that goes on for another session. -/
theorem spares_next (h : t.Tracked) (hp : t.paused.lookup k = some p) (hu : p.about? ≠ some u)
    (hsweep : ∀ since, p ≠ .sweeping since) : t.server.Spares u (t.next k p).server := by
  have ht := resume_of_paused hp
  refine ⟨steady_step h.sound ht (by simp) (by simp), (tells_news h.sound ht).ttl, ?_⟩
  rw [next, server_settle]
  exact Server.entry_proceed_of_apart h.sound.settled hu hsweep

end Tracked

/-! ### Sessions that are refused -/

/-- Whether the request that asked for a session has ended without it. -/
def Refused (t : Traffic) (u : SourceId) : Prop :=
  u ∉ t.server.registry.sources ∧
    ∃ k r, (k, r) ∈ t.arrivals ∧ r.fresh? = some u ∧ k ∉ t.tickets

/-- A session is put on the list by the request that has asked for it. -/
theorem mem_sources_step (h : t.Sound) (ht : t.step m = some t')
    (hu : u ∈ t'.server.registry.sources) : u ∈ t.server.registry.sources ∨
      ∃ k e, t.paused.lookup k = some (.enlisting e) ∧ e.session.source = u := by
  rcases quiet_of_happens h (happens_of_step ht) with hquiet | ⟨k, q, rfl, -, hq, rfl⟩
  · rw [← Registry.map_fst_positions] at hu ⊢
    rcases hquiet.positions with heq | ⟨k, e, hp, heq⟩
    · exact .inl (heq ▸ hu)
    · rw [heq, List.map_append] at hu
      exact (List.mem_append.1 hu).imp_right fun hlast =>
        ⟨k, e, hp, (List.mem_singleton.1 hlast).symm⟩
  · obtain ⟨e, he⟩ := h.orderly.entry_of_poll hq
    have hsources := (h.orderly.pollStep h.ring hq he).sources hq
    exact .inl (hsources ▸ hu)

/-- A session is refused when the one whose id was presented is live. -/
theorem refused_of_live (h : t.Sound) (hr : (k, r) ∈ t.arrivals) (hfresh : r.fresh? = some u)
    (hp : t.paused.lookup k = some (.seeking v (.opening u))) {e : Entry}
    (he : t.server.registry.live? v = some e)
    (hstale : t.server.registry.isStale t.server.now e = false) :
    (t.next k (.seeking v (.opening u))).Refused u := by
  have ht := resume_of_paused hp
  have hfree := (h.not_mem_reserved_take hp rfl).1
  refine ⟨fun hu => ?_, k, r, arrivals_mono ht hr, hfresh, ?_⟩
  · rw [next, server_settle, Server.proceed_seeking_of_live he hstale] at hu
    have hsources : (t.server.registry.modify v (·.touch t.server.now)).sources =
        t.server.registry.sources := by
      rw [Registry.sources, Registry.marks_touch]
      rfl
    exact hfree (List.mem_append_left _ (hsources ▸ hu))
  · have hgone := h.not_mem_take hp
    rw [next, Server.proceed_seeking_of_live he hstale]
    exact hgone

/-- **A session that was refused is never made.** -/
theorem Refused.step (hu : t.Refused u) (h : t.Tracked) (ht : t.step m = some t') :
    t'.Refused u := by
  obtain ⟨hsources, k, r, hr, hfresh, hgone⟩ := hu
  refine ⟨fun hu' => ?_, k, r, arrivals_mono ht hr, hfresh, fun hk => ?_⟩
  · rcases mem_sources_step h.sound ht hu' with hold | ⟨j, e, hp, rfl⟩
    · exact hsources hold
    · obtain ⟨r', hr', hreaches⟩ := h.paused hp
      rw [h.once hr hr' hfresh hreaches] at hgone
      exact hgone (mem_tickets_of_paused hp)
  · rcases tickets_step h.sound ht hk with hold | ⟨r', -, rfl⟩
    · exact hgone hold
    · exact Nat.lt_irrefl _ (h.traced.lt_of_mem hr)

end Traffic
end EventRelay
