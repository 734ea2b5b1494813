/-
# Requests of other sessions

A request stops for one session at a time (`Pause.about?`), and nothing but a sweep does
anything to a session for which it has not stopped (`Traffic.entry_step_of_apart`).  Nor does a
move touch any request but the one that goes on or is given up (`Traffic.places_step`).

Only who presents the id of a session stops for it (`Traffic.Addressed`): an id with the epoch of
another process is refused before.
-/

import EventRelay.Proofs.Server.Alike
import EventRelay.Proofs.Server.Runs
import EventRelay.Proofs.Session.Apart

namespace EventRelay

/-- Where a request stops, if it does. -/
def Standing.pause? : Standing → Option Pause
  | .paused p => some p
  | .inLine | .answered _ => none

theorem Standing.pause?_eq_some_iff {st : Standing} {p : Pause} :
    st.pause? = some p ↔ st = .paused p := by
  cases st <;> simp [pause?]

/-- The session that a request has asked for and that it stops for. -/
def Pause.sought? : Pause → Option SourceId
  | .seeking u _ | .expiring u _ | .closing u | .liningUp u => some u
  | .enlisting _ | .sweeping _ => none

/-- The session that a request stops for. -/
def Pause.about? : Pause → Option SourceId
  | .seeking u _ | .expiring u _ | .closing u | .liningUp u => some u
  | .enlisting e => some e.session.source
  | .sweeping _ => none

namespace Server

variable {s : Server} {k : Nat} {p : Pause} {u : SourceId}

/-- A request that goes on leaves the other sessions alone, unless it sweeps. -/
theorem entry_proceed_of_apart (h : s.registry.Settled) (hp : p.about? ≠ some u)
    (hsweep : ∀ since, p ≠ .sweeping since) :
    (s.proceed k p).1.registry.entry? u = s.registry.entry? u := by
  have hne : ∀ {v}, p.about? = some v → u ≠ v := by
    rintro v hv rfl
    exact hp hv
  cases p with
  | seeking v aim =>
    have hv := hne rfl
    have hglance := Registry.entry_glance_of_ne (r := s.registry) hv s.now
    simp only [proceed]
    cases hseen : s.registry.glance s.now v with
    | mk r sighting =>
      rw [hseen] at hglance
      cases sighting with
      | absent | idle => exact hglance
      | live =>
        cases aim with
        | opening | lookup | poll => exact hglance
        | subscribe t =>
          exact (Registry.entry_modify_of_ne (fun e => e.session.source_subscribe t) hv).trans hglance
        | unsubscribe t =>
          exact (Registry.entry_modify_of_ne
            (f := fun e => { e with session := e.session.unsubscribe t }) (fun _ => rfl) hv).trans
              hglance
  | expiring v aim => exact Registry.entry_expire_of_ne h (hne rfl) s.now
  | enlisting e => exact Registry.entry_enlist_of_ne (hne rfl)
  | closing v =>
    have hretire := Registry.entry_retire_of_ne h (hne rfl) (.invalidated v)
    simp only [proceed, Registry.invalidate]
    generalize s.registry.retire v (.invalidated v) = result at hretire
    obtain ⟨r, _ | _⟩ := result <;> exact hretire
  | sweeping since => exact absurd rfl (hsweep since)
  | liningUp v => exact Registry.entry_modify_of_ne (fun _ => rfl) (hne rfl)

/-- Where a request next stops is for the session that it has asked for before. -/
theorem sought_of_proceed {p' : Pause} (h : (s.proceed k p).2 = .paused p')
    (hu : p'.sought? = some u) : p.sought? = some u := by
  have hmissed : ∀ (s : Server) (aim : Aim), s.missed aim = .paused p' → p'.sought? = none := by
    intro s aim hst
    cases aim with
    | opening =>
      cases hst
      rfl
    | subscribe | unsubscribe | lookup | poll => cases hst
  have hnone : p'.sought? ≠ none := by
    simp [hu]
  cases p with
  | seeking v aim =>
    simp only [proceed] at h
    split at h
    · exact absurd (hmissed _ _ h) hnone
    · cases h
      exact hu
    · cases aim with
      | poll =>
        cases h
        exact hu
      | opening | subscribe | unsubscribe | lookup => cases h
  | expiring v aim => exact absurd (hmissed _ _ h) hnone
  | enlisting | sweeping | liningUp => cases h
  | closing v =>
    simp only [proceed] at h
    split at h <;> cases h

theorem current_of_seek {current : Option SessionId} {aim : Aim}
    (h : s.seek current aim = .paused p) (hu : p.sought? = some u) :
    current = some ⟨s.epoch, u⟩ := by
  unfold seek at h
  split at h
  · cases h
  · rename_i v hv
    cases h
    cases hu
    exact current_of_resolveNamed hv

/-- Who stops for a session when it arrives presents its id. -/
theorem current_of_receive {r : Request} (h : s.receive r = .paused p) (hu : p.sought? = some u) :
    r.current = some ⟨s.epoch, u⟩ := by
  cases r with
  | openSession current fresh =>
    cases current with
    | none =>
      cases h
      cases hu
    | some id =>
      simp only [receive] at h
      split at h
      · cases h
        cases hu
      · rename_i v hv
        cases h
        cases hu
        exact current_of_resolveNamed (show s.resolveNamed (some id) = .ok _ from hv)
  | closeSession current =>
    cases current with
    | none => cases h
    | some id =>
      simp only [receive] at h
      split at h
      · cases h
      · rename_i v hv
        cases h
        cases hu
        exact current_of_resolveNamed (show s.resolveNamed (some id) = .ok _ from hv)
  | subscribe | unsubscribe | lookup | poll => exact current_of_seek h hu
  | sweep =>
    cases h
    cases hu

end Server

namespace Traffic

variable {t t' : Traffic} {config : ServerConfig} {epoch : Epoch} {ms : List Move} {m : Move}
  {k j : Nat} {u : SourceId} {ttl : Duration}

/-! ### Who is moved -/

theorem lookup_take (t : Traffic) (k j : Nat) :
    (t.take k).paused.lookup j = if j = k then none else t.paused.lookup j :=
  Tickets.lookup_filter t.paused k j

/-- Where requests stand once one of them, which stood nowhere, has been put somewhere. -/
theorem lookup_settle (hk : t.paused.lookup k = none) (st : Standing) (j : Nat) :
    (t.settle k st).paused.lookup j = if j = k then st.pause? else t.paused.lookup j := by
  have hsame : t.paused.lookup j = if j = k then none else t.paused.lookup j := by
    split
    · rename_i hj
      rw [hj, hk]
    · rfl
  cases st with
  | paused p => exact Tickets.lookup_concat hk p j
  | inLine | answered => exact hsame

theorem lookup_arrive (h : t.Sound) (r : Server.Request) (j : Nat) :
    (t.arrive r).paused.lookup j =
      if j = t.ticket then (t.server.receive r).pause? else t.paused.lookup j := by
  have hfree : t.paused.lookup t.ticket = none := h.lookup_ticket
  exact lookup_settle (t := Traffic.note { t with ticket := t.ticket + 1 } [.arrived t.ticket r])
    hfree _ j

theorem lookup_goesOn (t : Traffic) (k : Nat) (s : Server) (st : Standing) (j : Nat) :
    ({ t.take k with server := s }.settle k st).paused.lookup j =
      if j = k then st.pause? else t.paused.lookup j := by
  have htaken : (t.take k).paused.lookup k = none := by rw [lookup_take, if_pos rfl]
  refine (lookup_settle (t := { t.take k with server := s }) htaken st j).trans ?_
  split
  · rfl
  · rename_i hj
    exact (lookup_take t k j).trans (if_neg hj)

/-- **Nobody is moved** but who goes on, is given up, or arrives. -/
theorem places_step (h : t.Sound) (ht : t.step m = some t') (hnew : j ≠ t.ticket)
    (hresume : m ≠ .resume j) (habort : m ≠ .abort j) :
    t'.paused.lookup j = t.paused.lookup j ∧ t'.server.poll? j = t.server.poll? j := by
  have hother : ∀ {k}, m = .resume k → j ≠ k := by
    rintro k rfl rfl
    exact hresume rfl
  cases happens_of_step ht with
  | arrives r hr =>
    exact ⟨(lookup_arrive h r j).trans (if_neg hnew), by rw [arrive, server_settle]; rfl⟩
  | goesOn k p hp =>
    have hjk := hother rfl
    refine ⟨(lookup_goesOn t k _ _ j).trans (if_neg hjk), ?_⟩
    · rw [server_settle]
      by_cases hpolls : (t.server.proceed k p).1.polls = t.server.polls
      · rw [Server.poll?, hpolls]
        rfl
      · obtain ⟨source, -, hlined⟩ := Server.lineUp_of_proceed hpolls
        rw [Server.poll?, hlined, Tickets.lookup_concat (h.poll_eq_none hp), if_neg hjk]
        rfl
  | polls k q hk hq =>
    have hjk := hother rfl
    refine ⟨rfl, ?_⟩
    obtain ⟨e, he⟩ := h.orderly.entry_of_poll hq
    have hstep := h.orderly.pollStep h.ring hq he
    show (t.server.advancePoll k).1.poll? j = t.server.poll? j
    generalize (t.server.advancePoll k).1 = s' at hstep ⊢
    generalize (t.server.advancePoll k).2 = answer at hstep
    cases hstep with
    | stays => rfl
    | waits => exact (Server.poll_setPhase _ _ _ _).trans (if_neg hjk)
    | timesOut | refuses =>
      rw [Server.dropPoll_eq hq]
      exact Tickets.lookup_without t.server.polls hjk
    | overflows | consumes =>
      rw [Server.dropPoll_withRegistry hq]
      exact Tickets.lookup_without t.server.polls hjk
  | leaves k p hp =>
    have hjk : j ≠ k := by
      rintro rfl
      exact habort rfl
    exact ⟨(lookup_take t k j).trans (if_neg hjk), rfl⟩
  | hangsUp k q hk hq =>
    have hjk : j ≠ k := by
      rintro rfl
      exact habort rfl
    refine ⟨rfl, ?_⟩
    show (t.server.dropPoll k).poll? j = t.server.poll? j
    rw [Server.dropPoll_eq hq]
    exact Tickets.lookup_without t.server.polls hjk
  | publishes | passes => exact ⟨rfl, rfl⟩

/-! ### Which session is changed -/

/-- Whether the request of a ticket stops for a session, or polls on it. -/
def Touches (t : Traffic) (k : Nat) (u : SourceId) : Prop :=
  (∃ p, t.paused.lookup k = some p ∧ p.about? = some u) ∨
    ∃ q, t.server.poll? k = some q ∧ q.source = u

/-- **A session is changed only by a request that stops for it or polls on it, and by sweeps.** -/
theorem entry_step_of_apart (h : t.Sound) (ht : t.step m = some t')
    (hresume : ∀ k, m = .resume k → ¬ t.Touches k u)
    (habort : ∀ k q, m = .abort k → t.server.poll? k = some q → q.source ≠ u)
    (hsweep : ∀ k since, m = .resume k → t.paused.lookup k ≠ some (.sweeping since)) :
    t'.server.registry.entry? u = t.server.registry.entry? u := by
  cases happens_of_step ht with
  | arrives r hr => rw [arrive, server_settle]; rfl
  | goesOn k p hp =>
    rw [server_settle]
    exact Server.entry_proceed_of_apart h.settled (fun hu => hresume k rfl (.inl ⟨p, hp, hu⟩))
      fun since hs => hsweep k since rfl (hs ▸ hp)
  | polls k q hk hq =>
    have hne : u ≠ q.source := fun heq => hresume k rfl (.inr ⟨q, hq, heq.symm⟩)
    obtain ⟨e, he⟩ := h.orderly.entry_of_poll hq
    obtain ⟨f, polls, answer, hf, hact⟩ := Server.advancePoll_eq hq e
    have hgoes : t.server.advancePoll k = _ := hact t.server.registry he
    simp only [note, hgoes]
    exact Registry.entry_modify_of_ne hf hne
  | hangsUp k q hk hq =>
    simp only [note]
    rw [Server.dropPoll_eq hq]
    exact Registry.entry_modify_of_ne (fun _ => rfl) (habort k q rfl hq).symm
  | leaves | publishes | passes => rfl

/-- What a sweep makes of a session. -/
theorem entry_step_of_sweep (h : t.Sound) (ht : t.step (.resume k) = some t') {since : Nat}
    (hp : t.paused.lookup k = some (.sweeping since)) (u : SourceId) :
    t'.server.registry.entry? u = (t.server.registry.entry? u).map fun e =>
      if t.server.registry.isSweepable since e then e.retire else e := by
  cases (resume_of_paused hp).symm.trans ht
  rw [next, server_settle]
  exact Registry.entry_sweep h.settled h.orderly.sources since u

/-! ### Who asks for a session -/

/-- Whether the request of a ticket presents an id. -/
def Presents (t : Traffic) (id : SessionId) (k : Nat) : Prop :=
  ∃ r, (k, r) ∈ t.arrivals ∧ r.current = some id

instance (t : Traffic) (id : SessionId) (k : Nat) : Decidable (t.Presents id k) :=
  decidable_of_iff (∃ q ∈ t.arrivals, q.1 = k ∧ q.2.current = some id)
    ⟨fun ⟨q, hq, hk, hid⟩ => ⟨q.2, hk ▸ hq, hid⟩, fun ⟨r, hr, hid⟩ => ⟨(k, r), hr, rfl, hid⟩⟩

theorem Presents.mono {id : SessionId} (hk : t.Presents id k) (ht : t.step m = some t') :
    t'.Presents id k := by
  obtain ⟨r, hr, hcurrent⟩ := hk
  exact ⟨r, arrivals_mono ht hr, hcurrent⟩

/-- Who presents an id once a move is made has done so before, or has just arrived. -/
theorem presents_step (h : t.Sound) (ht : t.step m = some t') {id : SessionId}
    (hk : t'.Presents id k) :
    t.Presents id k ∨ ∃ r, m = .arrive r ∧ k = t.ticket ∧ r.current = some id := by
  obtain ⟨r, hr, hcurrent⟩ := hk
  rcases arrived_step h ht hr with hold | ⟨rfl, rfl⟩
  · exact .inl ⟨r, hold, hcurrent⟩
  · exact .inr ⟨r, rfl, rfl, hcurrent⟩

/-- Whether everybody who stops for a session that they have asked for, or polls on it, has presented
its id. -/
structure Addressed (t : Traffic) : Prop where
  paused : ∀ {k p u}, t.paused.lookup k = some p → p.sought? = some u →
    t.Presents ⟨t.server.epoch, u⟩ k
  polls : ∀ {k q}, t.server.poll? k = some q → t.Presents ⟨t.server.epoch, q.source⟩ k

namespace Addressed

theorem new (hnew : Traffic.new config epoch = .ok t) : t.Addressed := by
  obtain ⟨log, -, rfl⟩ := eq_of_new hnew
  constructor
  · intro k p u hp
    cases hp
  · intro k q hq
    cases hq

/-- Who stops for a session once a move is made. -/
theorem paused_step (ha : t.Addressed) (h : t.Sound) (ht : t.step m = some t') {p : Pause}
    (hp : t'.paused.lookup k = some p) (hu : p.sought? = some u) :
    t'.Presents ⟨t.server.epoch, u⟩ k := by
  have hold : ∀ {p}, t.paused.lookup k = some p → p.sought? = some u →
      t'.Presents ⟨t.server.epoch, u⟩ k := fun hp hu => (ha.paused hp hu).mono ht
  have harrivals := arrivals_step h ht
  cases happens_of_step ht with
  | arrives r hr =>
    rw [lookup_arrive h] at hp
    split at hp
    · rename_i hk
      subst hk
      refine ⟨r, ?_, Server.current_of_receive (Standing.pause?_eq_some_iff.1 hp) hu⟩
      rw [harrivals]
      exact List.mem_append_right _ List.mem_cons_self
    · exact hold hp hu
  | goesOn j p' hp' =>
    rw [lookup_goesOn] at hp
    split at hp
    · rename_i hk
      subst hk
      exact hold hp' (Server.sought_of_proceed (Standing.pause?_eq_some_iff.1 hp) hu)
    · exact hold hp hu
  | leaves j p' hp' =>
    have hp : (t.take j).paused.lookup k = some p := hp
    rw [lookup_take] at hp
    split at hp
    · cases hp
    · exact hold hp hu
  | polls | hangsUp | publishes | passes => exact hold hp hu

/-- Who polls once a move is made. -/
theorem polls_step (ha : t.Addressed) (h : t.Sound) (ht : t.step m = some t') {q : Poll}
    (hq : t'.server.poll? k = some q) :
    t'.Presents ⟨t.server.epoch, q.source⟩ k := by
  have hold : ∀ {q}, (k, q) ∈ t.server.polls → t'.Presents ⟨t.server.epoch, q.source⟩ k :=
    fun hq => (ha.polls (Tickets.lookup_of_mem h.orderly.tickets hq)).mono ht
  have hmem := Server.mem_polls_of_poll? hq
  cases happens_of_step ht with
  | arrives r hr =>
    rw [arrive, server_settle] at hmem
    exact hold hmem
  | goesOn j p hp =>
    rw [server_settle] at hmem
    by_cases hpolls : (t.server.proceed j p).1.polls = t.server.polls
    · exact hold (hpolls ▸ hmem)
    · obtain ⟨source, rfl, hlined⟩ := Server.lineUp_of_proceed hpolls
      rcases List.mem_append.1 (hlined ▸ hmem) with hin | hnew
      · exact hold hin
      · cases List.mem_singleton.1 hnew
        exact (ha.paused hp rfl).mono ht
  | polls j p hj hp =>
    obtain ⟨e, he⟩ := h.orderly.entry_of_poll hp
    rcases (h.orderly.pollStep h.ring hp he).mem_polls h.orderly.tickets hp hmem
      with ⟨hin, -⟩ | ⟨-, w, heq⟩
    · exact hold hin
    · cases heq
      exact (ha.polls hp).mono ht
  | hangsUp j p hj hp =>
    have hmem : (k, q) ∈ (t.server.dropPoll j).polls := hmem
    rw [Server.dropPoll_eq hp] at hmem
    exact hold (Tickets.mem_without.1 hmem).1
  | leaves | publishes | passes => exact hold hmem

theorem step (ha : t.Addressed) (h : t.Sound) (ht : t.step m = some t') : t'.Addressed where
  paused hp hu := (h.settings_step ht).2 ▸ ha.paused_step h ht hp hu
  polls hq := (h.settings_step ht).2 ▸ ha.polls_step h ht hq

/-- Who stops for a session presents its id, or puts it on the list. -/
theorem presents_of_touches (ha : t.Addressed) (hk : t.Touches k u) :
    t.Presents ⟨t.server.epoch, u⟩ k ∨
      ∃ e, t.paused.lookup k = some (.enlisting e) ∧ e.session.source = u := by
  rcases hk with ⟨p, hp, hu⟩ | ⟨q, hq, rfl⟩
  · cases p with
    | enlisting e => exact .inr ⟨e, hp, Option.some.inj hu⟩
    | seeking | expiring | closing | liningUp | sweeping => exact .inl (ha.paused hp hu)
  · exact .inl (ha.polls hq)

end Addressed
end Traffic
end EventRelay
