/-
# Every answer is one that was asked for

A request is known by its ticket, and the notes say what was asked with each ticket
(`Traffic.arrivals`).  Wherever a request stops, it is after what it asked for
(`Server.Request.Reaches`), and what it is told in the end is of the kind that was asked
for (`Server.Request.Gets`); by then it is gone.  `Traffic.Traced` says so of all requests
at once, and `Traffic.Traced.step` that no move breaks it.
-/

import EventRelay.Proofs.Server.Passages

namespace EventRelay

/-- The request that a note says has arrived, and its ticket. -/
def Note.arrival? : Note → Option (Nat × Server.Request)
  | arrived k r => some (k, r)
  | published _ | opened _ _ _ | turned _ _ | polled _ _ _ | answered _ _ | aborted _ => none

/-- The ticket of the request that a note says has ended. -/
def Note.ended? : Note → Option Nat
  | polled k _ _ | answered k _ => some k
  | arrived _ _ | published _ | opened _ _ _ | turned _ _ | aborted _ => none

namespace Server

/-- What a request wants of the session that it looks for, if it looks for one. -/
def Request.aim? : Request → Option Aim
  | openSession _ fresh => some (.opening fresh)
  | subscribe _ t => some (.subscribe t)
  | unsubscribe _ t => some (.unsubscribe t)
  | lookup _ => some .lookup
  | poll _ => some .poll
  | closeSession _ | sweep => none

/-- Whether a request names a session of a source. -/
def Request.Names (r : Request) (source : SourceId) : Prop :=
  r.current.map SessionId.source = some source

/-- Whether a request can stop at a pause. -/
def Request.Reaches (r : Request) : Pause → Prop
  | .seeking source aim | .expiring source aim => r.Names source ∧ r.aim? = some aim
  | .enlisting e => r.fresh? = some e.session.source
  | .closing source => r.Names source ∧ r = .closeSession r.current
  | .sweeping _ => r = .sweep
  | .liningUp source => r.Names source ∧ r.aim? = some .poll

/-- Whether a reply is of the kind that a request asks for. -/
def Request.Gets (r : Request) : Served → Prop
  | .session id => r.fresh? = some id.source
  | .done => r = .closeSession r.current ∨ r.aim? = some .lookup
  | .changed _ => ∃ t, r.aim? = some (.subscribe t) ∨ r.aim? = some (.unsubscribe t)
  | .batch _ => r.aim? = some .poll
  | .swept _ => r = .sweep

/-- Whether a request can come to stand somewhere. -/
def Request.Meets (r : Request) : Standing → Prop
  | .paused p => r.Reaches p
  | .inLine => r.aim? = some .poll
  | .answered answer => ∀ reply, answer = .ok reply → r.Gets reply

theorem Request.fresh?_of_aim? {r : Request} {u : SourceId} (h : r.aim? = some (.opening u)) :
    r.fresh? = some u := by
  cases r with
  | openSession => simpa [aim?, fresh?] using h
  | closeSession | subscribe | unsubscribe | lookup | poll | sweep => simp [aim?] at h

variable {s : Server} {r : Request}

/-- Only the id of a session of this server gives a source. -/
theorem current_of_resolveNamed {current : Option SessionId} {source : SourceId}
    (h : s.resolveNamed current = .ok source) : current = some ⟨s.epoch, source⟩ := by
  cases current with
  | none => cases h
  | some id =>
    simp only [resolveNamed, resolve] at h
    split at h
    · rename_i hepoch
      cases h
      rw [← hepoch]
    · cases h

theorem resolveNamed_eq_ok {current : Option SessionId} {source : SourceId}
    (h : s.resolveNamed current = .ok source) : current.map SessionId.source = some source := by
  rw [current_of_resolveNamed h]
  rfl

theorem meets_seek {aim : Aim} (haim : r.aim? = some aim) : r.Meets (s.seek r.current aim) := by
  unfold seek
  split
  · rintro reply ⟨⟩
  · rename_i source hsource
    exact ⟨resolveNamed_eq_ok hsource, haim⟩

/-- Where a request first stands. -/
theorem meets_receive (s : Server) (r : Request) : r.Meets (s.receive r) := by
  cases r with
  | openSession current fresh =>
    cases current with
    | none => exact rfl
    | some id =>
      simp only [receive]
      split
      · exact rfl
      · rename_i source hsource
        exact ⟨resolveNamed_eq_ok (show s.resolveNamed (some id) = .ok source from hsource), rfl⟩
  | closeSession current =>
    cases current with
    | none => rintro reply ⟨⟩
    | some id =>
      simp only [receive]
      split
      · rintro reply ⟨⟩
      · rename_i source hsource
        exact ⟨resolveNamed_eq_ok (show s.resolveNamed (some id) = .ok source from hsource), rfl⟩
  | subscribe | unsubscribe | lookup | poll => exact meets_seek rfl
  | sweep => exact rfl

/-- A request goes on whose session is not there. -/
theorem meets_missed {aim : Aim} (haim : r.aim? = some aim) : r.Meets (s.missed aim) := by
  cases aim with
  | opening u => exact Request.fresh?_of_aim? haim
  | subscribe | unsubscribe | lookup | poll => rintro reply ⟨⟩

/-- Where a request stands next. -/
theorem meets_proceed (k : Nat) {p : Pause} (h : r.Reaches p) : r.Meets (s.proceed k p).2 := by
  cases p with
  | seeking source aim =>
    obtain ⟨hnames, haim⟩ := h
    simp only [proceed]
    split
    · exact meets_missed haim
    · exact ⟨hnames, haim⟩
    · cases aim with
      | opening | poll =>
        first
        | exact ⟨hnames, haim⟩
        | rintro reply ⟨⟩
      | subscribe t =>
        rintro reply ⟨⟩
        exact ⟨t, .inl haim⟩
      | unsubscribe t =>
        rintro reply ⟨⟩
        exact ⟨t, .inr haim⟩
      | lookup =>
        rintro reply ⟨⟩
        exact .inr haim
  | expiring source aim => exact meets_missed h.2
  | enlisting e =>
    rintro reply ⟨⟩
    exact h
  | closing source =>
    simp only [proceed]
    split
    · rintro reply ⟨⟩
      exact .inl h.2
    · rintro reply ⟨⟩
  | sweeping since =>
    rintro reply ⟨⟩
    exact h
  | liningUp source => exact h.2

theorem not_lining_missed (s : Server) (aim : Aim) (u : SourceId) :
    s.missed aim ≠ .paused (.liningUp u) := by
  cases aim <;> simp [missed, makeSession]

/-- A request that arrives is no poll yet that has found its session. -/
theorem not_lining_receive (s : Server) (r : Request) (u : SourceId) :
    s.receive r ≠ .paused (.liningUp u) := by
  have hseek : ∀ current aim, s.seek current aim ≠ .paused (.liningUp u) := by
    intro current aim
    unfold seek
    split <;> simp
  unfold receive
  split
  · simp [makeSession]
  · split <;> simp [makeSession]
  · simp
  · split <;> simp
  · exact hseek _ _
  · exact hseek _ _
  · exact hseek _ _
  · exact hseek _ _
  · simp

theorem proceed_seeking_of_absent {u : SourceId} (h : s.registry.live? u = none) (k : Nat)
    (aim : Aim) : s.proceed k (.seeking u aim) = (s, s.missed aim) := by
  simp only [proceed, Registry.glance, h]
  rfl

theorem proceed_seeking_of_idle {u : SourceId} {e : Entry} (h : s.registry.live? u = some e)
    (hstale : s.registry.isStale s.now e = true) (k : Nat) (aim : Aim) :
    s.proceed k (.seeking u aim) = (s, .paused (.expiring u aim)) := by
  simp only [proceed, Registry.glance, h, hstale, if_true]
  rfl

theorem proceed_seeking_of_live {u : SourceId} {e : Entry} (h : s.registry.live? u = some e)
    (hfresh : s.registry.isStale s.now e = false) (k : Nat) (aim : Aim) :
    s.proceed k (.seeking u aim) =
      (s.withRegistry (s.registry.modify u (·.touch s.now))).found u aim := by
  simp only [proceed, Registry.glance, h, hfresh, if_neg Bool.false_ne_true]

/-- A request that lines up is a poll of the session it names. -/
theorem lineUp_of_proceed {k : Nat} {p : Pause} (hpolls : (s.proceed k p).1.polls ≠ s.polls) :
    ∃ source, p = .liningUp source ∧ (s.proceed k p).1.polls = s.polls ++ [(k, ⟨source, .queued⟩)] := by
  cases p with
  | liningUp source => exact ⟨source, rfl, rfl⟩
  | seeking source aim =>
    refine absurd ?_ hpolls
    simp only [proceed]
    split
    · rfl
    · rfl
    · cases aim <;> rfl
  | expiring | enlisting | sweeping => exact absurd rfl hpolls
  | closing source =>
    refine absurd ?_ hpolls
    simp only [proceed]
    split <;> rfl

/-- A poll that ends is gone. -/
theorem PollStep.gone {events : List Event} {k : Nat} {p : Poll} {e : Entry} {s' : Server}
    {a : Outcome Batch} (h : PollStep s events k p e s' (some a)) (hp : s.poll? k = some p) :
    k ∉ s'.polls.map Prod.fst := by
  have hgone : ∀ q ∈ s.polls.filter (fun q => q.1 ≠ k), q.1 ≠ k := fun q hq =>
    (Tickets.mem_without.1 hq).2
  intro hk
  obtain ⟨q, hq, rfl⟩ := List.mem_map.1 hk
  cases h with
  | timesOut | refuses =>
    rw [dropPoll_eq hp] at hq
    exact hgone q hq rfl
  | overflows | consumes =>
    rw [dropPoll_withRegistry hp] at hq
    exact hgone q hq rfl

end Server

namespace Traffic

variable {t t' : Traffic} {k : Nat} {r : Server.Request}

/-- What was noted, the first thing first. -/
def told (t : Traffic) : List Note := t.notes.map Prod.snd

/-- The requests that have arrived, with their tickets. -/
def arrivals (t : Traffic) : List (Nat × Server.Request) := t.told.filterMap Note.arrival?

/-- The tickets of the requests that have ended. -/
def ended (t : Traffic) : List Nat := t.told.filterMap Note.ended?

theorem told_note (t : Traffic) (ns : List Note) : (t.note ns).told = t.told ++ ns := by
  simp [told, note, Function.comp_def]

theorem arrivals_note (t : Traffic) (ns : List Note) :
    (t.note ns).arrivals = t.arrivals ++ ns.filterMap Note.arrival? := by
  rw [arrivals, told_note, List.filterMap_append]
  rfl

theorem mem_openings {k : Nat} {u : SourceId} {start : Int} :
    (k, u, start) ∈ t.openings ↔ .opened k u start ∈ t.told := by
  simp only [openings, told, List.mem_filterMap, List.mem_map]
  constructor
  · rintro ⟨⟨instant, n⟩, hn, ho⟩
    cases n with
    | opened =>
      cases ho
      exact ⟨_, hn, rfl⟩
    | arrived | published | turned | polled | answered | aborted => cases ho
  · rintro ⟨n, hn, hopened⟩
    exact ⟨n, hn, by rw [hopened]; rfl⟩

theorem ended_note (t : Traffic) (ns : List Note) :
    (t.note ns).ended = t.ended ++ ns.filterMap Note.ended? := by
  rw [ended, told_note, List.filterMap_append]
  rfl

/-- What the notes say of requests by their tickets. -/
structure Traced (t : Traffic) : Prop where
  numbered : t.arrivals.map Prod.fst = List.range t.ticket
  paused : ∀ q ∈ t.paused, ∃ r, (q.1, r) ∈ t.arrivals ∧ r.Reaches q.2
  polls : ∀ q ∈ t.server.polls, ∃ r, (q.1, r) ∈ t.arrivals ∧ r.Reaches (.liningUp q.2.source)
  made : ∀ {k u start}, .opened k u start ∈ t.told →
    ∃ r, (k, r) ∈ t.arrivals ∧ r.fresh? = some u
  polled : ∀ {k session a}, .polled k session a ∈ t.told →
    ∃ r, (k, r) ∈ t.arrivals ∧ r.Reaches (.liningUp session.source)
  answered : ∀ {k a}, .answered k a ∈ t.told →
    ∃ r, (k, r) ∈ t.arrivals ∧ ∀ reply, a = .ok reply → r.Gets reply
  gone : ∀ k ∈ t.ended, k ∉ t.tickets

/-- What is noted of a poll that goes on. -/
theorem mem_pollNotes {s : Server} {p : Poll} {e : Entry}
    (he : s.registry.entry? p.source = some e) {answer : Option (Outcome Batch)} {n : Note}
    (hn : n ∈ pollNotes s k p answer) : n = .turned k e.session ∨
      ∃ a, answer = some a ∧ (n = .polled k e.session a ∨ n = .answered k (a.map .batch)) := by
  rw [pollNotes_eq he] at hn
  rcases List.mem_append.1 hn with hturn | hend
  · unfold turnNote at hturn
    split at hturn
    · exact .inl (List.mem_singleton.1 hturn)
    · cases hturn
  · cases answer with
    | none => cases hend
    | some a => exact .inr ⟨a, rfl, by simpa using hend⟩

namespace Traced

theorem new {config : ServerConfig} {epoch : Epoch} (ht : Traffic.new config epoch = .ok t) :
    t.Traced := by
  obtain ⟨log, -, rfl⟩ := eq_of_new ht
  exact ⟨rfl, by simp, by simp, by simp [told], by simp [told], by simp [told], by simp [ended, told]⟩

/-- One ticket, one request. -/
theorem unique (h : t.Traced) {r' : Server.Request} (hr : (k, r) ∈ t.arrivals)
    (hr' : (k, r') ∈ t.arrivals) : r = r' :=
  Tickets.unique (h.numbered ▸ List.nodup_range) hr hr'

theorem lt_of_mem (h : t.Traced) (hr : (k, r) ∈ t.arrivals) : k < t.ticket :=
  List.mem_range.1 (h.numbered ▸ List.mem_map_of_mem hr)

/-- A request that has ended has arrived. -/
theorem arrived_of_ended (h : t.Traced) (hk : k ∈ t.ended) : ∃ r, (k, r) ∈ t.arrivals := by
  obtain ⟨n, hn, hended⟩ := List.mem_filterMap.1 hk
  cases n with
  | polled =>
    cases hended
    obtain ⟨r, hr, -⟩ := h.polled hn
    exact ⟨r, hr⟩
  | answered =>
    cases hended
    obtain ⟨r, hr, -⟩ := h.answered hn
    exact ⟨r, hr⟩
  | arrived | published | opened | turned | aborted => cases hended

/-- Requests go, and sessions change. -/
theorem change (h : t.Traced) {t₁ : Traffic} (hticket : t₁.ticket = t.ticket)
    (hnotes : t₁.notes = t.notes) (hpaused : ∀ q ∈ t₁.paused, q ∈ t.paused)
    (hpolls : ∀ q ∈ t₁.server.polls, ∃ q' ∈ t.server.polls, q'.1 = q.1 ∧ q'.2.source = q.2.source) :
    t₁.Traced := by
  have htold : t₁.told = t.told := by rw [told, hnotes]; rfl
  have harrivals : t₁.arrivals = t.arrivals := by rw [arrivals, htold]; rfl
  have hended : t₁.ended = t.ended := by rw [ended, htold]; rfl
  refine ⟨hticket ▸ harrivals ▸ h.numbered, fun q hq => harrivals ▸ h.paused q (hpaused q hq),
    fun q hq => ?_, fun hn => harrivals ▸ h.made (htold ▸ hn),
    fun hn => harrivals ▸ h.polled (htold ▸ hn), fun hn => harrivals ▸ h.answered (htold ▸ hn),
    fun j hj hin => h.gone j (hended ▸ hj) ?_⟩
  · obtain ⟨q', hq', hk, hsource⟩ := hpolls q hq
    exact harrivals ▸ hk ▸ hsource ▸ h.polls q' hq'
  · rcases List.mem_append.1 hin with hpause | hpoll
    · obtain ⟨q, hq, rfl⟩ := List.mem_map.1 hpause
      exact List.mem_append_left _ (List.mem_map_of_mem (hpaused q hq))
    · obtain ⟨q, hq, rfl⟩ := List.mem_map.1 hpoll
      obtain ⟨q', hq', hk, -⟩ := hpolls q hq
      exact List.mem_append_right _ (hk ▸ List.mem_map_of_mem hq')

/-- Notes of requests that are known, of their ends only if they are gone. -/
theorem note (h : t.Traced) {ns : List Note}
    (hmade : ∀ j u start, .opened j u start ∈ ns → ∃ r, (j, r) ∈ t.arrivals ∧ r.fresh? = some u)
    (hpolled : ∀ j session a, .polled j session a ∈ ns →
      ∃ r, (j, r) ∈ t.arrivals ∧ r.Reaches (.liningUp session.source))
    (hanswered : ∀ j a, .answered j a ∈ ns →
      ∃ r, (j, r) ∈ t.arrivals ∧ ∀ reply, a = .ok reply → r.Gets reply)
    (hgone : ∀ j ∈ ns.filterMap Note.ended?, j ∉ t.tickets)
    (hns : ns.filterMap Note.arrival? = []) : (t.note ns).Traced := by
  have harrivals : (t.note ns).arrivals = t.arrivals := by
    rw [arrivals_note, hns, List.append_nil]
  refine ⟨harrivals ▸ h.numbered, harrivals ▸ h.paused, harrivals ▸ h.polls, fun hn => ?_,
    fun hn => ?_, fun hn => ?_, fun j hj => ?_⟩
  · rw [harrivals]
    rw [told_note] at hn
    rcases List.mem_append.1 hn with hold | hnew
    · exact h.made hold
    · exact hmade _ _ _ hnew
  · rw [harrivals]
    rw [told_note] at hn
    rcases List.mem_append.1 hn with hold | hnew
    · exact h.polled hold
    · exact hpolled _ _ _ hnew
  · rw [harrivals]
    rw [told_note] at hn
    rcases List.mem_append.1 hn with hold | hnew
    · exact h.answered hold
    · exact hanswered _ _ hnew
  · rw [ended_note] at hj
    rcases List.mem_append.1 hj with hold | hnew
    · exact h.gone j hold
    · exact hgone j hnew

/-- A request is put where it now stands. -/
theorem settle (h : t.Traced) {st : Standing} (hr : (k, r) ∈ t.arrivals) (hfree : k ∉ t.tickets)
    (hopen : k ∉ t.ended) (hst : r.Meets st) : (t.settle k st).Traced := by
  cases st with
  | inLine => exact h
  | answered answer =>
    refine h.note (by simp) (by simp) (fun j a hn => ?_) (fun j hj => ?_) rfl
    · cases List.mem_singleton.1 hn
      exact ⟨r, hr, hst⟩
    · rw [List.mem_singleton.1 hj]
      exact hfree
  | paused p =>
    have hput : Traffic.Traced { t with paused := t.paused ++ [(k, p)] } := by
      refine ⟨h.numbered, fun q hq => ?_, h.polls, h.made, h.polled, h.answered, fun j hj hin => ?_⟩
      · rcases List.mem_append.1 hq with hold | hnew
        · exact h.paused q hold
        · rw [List.mem_singleton.1 hnew]
          exact ⟨r, hr, hst⟩
      · have hcases : j ∈ t.tickets ∨ j = k := by
          simp only [tickets, List.map_append, List.mem_append, List.map_cons, List.map_nil,
            List.mem_singleton] at hin ⊢
          tauto
        rcases hcases with hold | rfl
        · exact h.gone j hj hold
        · exact hopen hj
    refine hput.note (fun j u start hn => ?_) ?_ ?_ ?_ ?_
    · cases p with
      | enlisting e =>
        cases List.mem_singleton.1 hn
        exact ⟨r, hr, hst⟩
      | seeking | expiring | closing | sweeping | liningUp => cases hn
    all_goals cases p <;> simp [stopNotes, Note.ended?, Note.arrival?]

/-- A request arrives. -/
theorem arrive (h : t.Traced) (hs : t.Sound) (r : Server.Request) : (t.arrive r).Traced := by
  have harrivals : (Traffic.note { t with ticket := t.ticket + 1 } [.arrived t.ticket r]).arrivals =
      t.arrivals ++ [(t.ticket, r)] :=
    arrivals_note _ _
  have hended : (Traffic.note { t with ticket := t.ticket + 1 } [.arrived t.ticket r]).ended =
      t.ended :=
    (ended_note _ _).trans (List.append_nil _)
  have hfree : t.ticket ∉ t.tickets := fun hin => Nat.lt_irrefl _ (hs.issued _ hin)
  have hopen : t.ticket ∉ t.ended := fun hin => by
    obtain ⟨r', hr'⟩ := h.arrived_of_ended hin
    exact Nat.lt_irrefl _ (h.lt_of_mem hr')
  have hkeep : ∀ {j} {P : Server.Request → Prop}, (∃ r, (j, r) ∈ t.arrivals ∧ P r) →
      ∃ r', (j, r') ∈ t.arrivals ++ [(t.ticket, r)] ∧ P r' := by
    rintro j P ⟨r', hr', hP⟩
    exact ⟨r', List.mem_append_left _ hr', hP⟩
  have hnoted : (Traffic.note { t with ticket := t.ticket + 1 } [.arrived t.ticket r]).Traced := by
    have hold : ∀ {n}, n ∈ (Traffic.note { t with ticket := t.ticket + 1 }
        [.arrived t.ticket r]).told → n ∈ t.told ∨ n = .arrived t.ticket r := by
      intro n hn
      rw [told_note] at hn
      exact (List.mem_append.1 hn).imp_right List.mem_singleton.1
    refine ⟨?_, fun q hq => harrivals ▸ hkeep (h.paused q hq),
      fun q hq => harrivals ▸ hkeep (h.polls q hq), fun hn => ?_, fun hn => ?_, fun hn => ?_,
      fun j hj => h.gone j (hended ▸ hj)⟩
    · rw [harrivals, List.map_append, h.numbered]
      exact List.range_succ.symm
    · exact harrivals ▸ hkeep (h.made ((hold hn).resolve_right (by simp)))
    · exact harrivals ▸ hkeep (h.polled ((hold hn).resolve_right (by simp)))
    · exact harrivals ▸ hkeep (h.answered ((hold hn).resolve_right (by simp)))
  exact hnoted.settle (harrivals ▸ List.mem_append_right _ (List.mem_singleton.2 rfl)) hfree
    (hended ▸ hopen) (Server.meets_receive t.server r)

/-- A request goes on. -/
theorem goesOn (h : t.Traced) (hs : t.Sound) {p : Pause} (hp : t.paused.lookup k = some p) :
    Traffic.Traced ({ t.take k with server := (t.server.proceed k p).1 }.settle k
      (t.server.proceed k p).2) := by
  have hmem := Tickets.mem_of_lookup hp
  obtain ⟨r, hr, hreaches⟩ := h.paused _ hmem
  have hopen : k ∉ t.ended := fun hin =>
    h.gone k hin (mem_tickets_of_paused hp)
  have hpaused : ∀ q ∈ (t.take k).paused, q ∈ t.paused := fun q hq => (Tickets.mem_without.1 hq).1
  by_cases hpolls : (t.server.proceed k p).1.polls = t.server.polls
  · have hput : Traffic.Traced { t.take k with server := (t.server.proceed k p).1 } :=
      h.change rfl rfl hpaused fun q hq => ⟨q, hpolls ▸ hq, rfl, rfl⟩
    have htickets : Traffic.tickets { t.take k with server := (t.server.proceed k p).1 } =
        (t.take k).tickets := by
      rw [tickets, hpolls]
      rfl
    exact hput.settle hr (htickets ▸ hs.not_mem_take hp) hopen (Server.meets_proceed k hreaches)
  · obtain ⟨source, rfl, hlined⟩ := Server.lineUp_of_proceed hpolls
    refine ⟨h.numbered, fun q hq => h.paused q (hpaused q hq), fun q hq => ?_, h.made, h.polled,
      h.answered, fun j hj hin => h.gone j hj ?_⟩
    · rcases List.mem_append.1 (hlined ▸ hq) with hold | hnew
      · exact h.polls q hold
      · rw [List.mem_singleton.1 hnew]
        exact ⟨r, hr, hreaches⟩
    · rcases List.mem_append.1 hin with hpause | hpoll
      · obtain ⟨q, hq, rfl⟩ := List.mem_map.1 hpause
        exact List.mem_append_left _ (List.mem_map_of_mem (hpaused q hq))
      · obtain ⟨q, hq, rfl⟩ := List.mem_map.1 hpoll
        rcases List.mem_append.1 (hlined ▸ hq) with hold | hnew
        · exact List.mem_append_right _ (List.mem_map_of_mem hold)
        · rw [List.mem_singleton.1 hnew]
          exact mem_tickets_of_paused hp

/-- A poll that has lined up goes on. -/
theorem poll (h : t.Traced) (hs : t.Sound) {p : Poll} (hk : t.paused.lookup k = none)
    (hp : t.server.poll? k = some p) :
    Traced ({ t with server := (t.server.advancePoll k).1 }.note
      (pollNotes t.server k p (t.server.advancePoll k).2)) := by
  obtain ⟨e, he⟩ := hs.orderly.entry_of_poll hp
  have hstep := hs.orderly.pollStep hs.ring hp he
  obtain ⟨r, hr, hreaches⟩ := h.polls _ (Server.mem_polls_of_poll? hp)
  have hput : Traffic.Traced { t with server := (t.server.advancePoll k).1 } := by
    refine h.change rfl rfl (fun _ hq => hq) fun q hq => ?_
    rcases hstep.mem_polls hs.orderly.tickets hp hq with ⟨hold, -⟩ | ⟨-, w, rfl⟩
    · exact ⟨q, hold, rfl, rfl⟩
    · exact ⟨_, Server.mem_polls_of_poll? hp, rfl, rfl⟩
  have hsource := Registry.source_of_entry he
  refine hput.note (fun j u start hn => ?_) (fun j session a hn => ?_) (fun j a hn => ?_)
    (fun j hj hin => ?_) ?_
  · rcases mem_pollNotes he hn with hturn | ⟨a, -, hend | hend⟩
    · cases hturn
    · cases hend
    · cases hend
  · rcases mem_pollNotes he hn with hturn | ⟨a, -, hend | hend⟩
    · cases hturn
    · cases hend
      exact ⟨r, hr, hsource ▸ hreaches⟩
    · cases hend
  · rcases mem_pollNotes he hn with hturn | ⟨a, -, hend | hend⟩
    · cases hturn
    · cases hend
    · cases hend
      refine ⟨r, hr, fun reply hreply => ?_⟩
      cases a with
      | error fault => cases hreply
      | ok b =>
        cases hreply
        exact hreaches.2
  · obtain ⟨n, hn, hended⟩ := List.mem_filterMap.1 hj
    rcases mem_pollNotes he hn with rfl | ⟨a, ha, hend⟩
    · cases hended
    · have hjk : j = k := by
        rcases hend with rfl | rfl <;> exact (Option.some.inj hended).symm
      subst hjk
      rcases List.mem_append.1 hin with hpause | hpoll
      · exact Tickets.not_mem_of_lookup hk hpause
      · exact (ha ▸ hstep).gone hp hpoll
  · rw [List.filterMap_eq_nil_iff]
    intro n hn
    rcases mem_pollNotes he hn with rfl | ⟨a, -, rfl | rfl⟩ <;> rfl

/-- **Every answer is one that was asked for**, whatever happens next. -/
theorem step (h : t.Traced) (hs : t.Sound) {m : Move} (ht : t.step m = some t') : t'.Traced := by
  cases happens_of_step ht with
  | arrives r hr => exact h.arrive hs r
  | goesOn k p hp => exact h.goesOn hs hp
  | polls k p hk hp => exact h.poll hs hk hp
  | leaves k p hp =>
    have hput : (t.take k).Traced :=
      h.change rfl rfl (fun q hq => (Tickets.mem_without.1 hq).1) fun q hq => ⟨q, hq, rfl, rfl⟩
    exact hput.note (by simp) (by simp) (by simp) (by simp [Note.ended?]) rfl
  | hangsUp k p hk hp =>
    have hput : Traffic.Traced { t with server := t.server.dropPoll k } := by
      refine h.change rfl rfl (fun _ hq => hq) fun q hq => ⟨q, ?_, rfl, rfl⟩
      rw [Server.dropPoll_eq hp] at hq
      exact (Tickets.mem_without.1 hq).1
    exact hput.note (by simp) (by simp) (by simp) (by simp [Note.ended?]) rfl
  | publishes stamp typeId payload =>
    have hput : Traffic.Traced { t with server := t.server.publish stamp typeId payload } :=
      h.change rfl rfl (fun _ hq => hq) fun q hq => ⟨q, hq, rfl, rfl⟩
    exact hput.note (by simp) (by simp) (by simp) (by simp [Note.ended?]) rfl
  | passes nanos => exact h.change rfl rfl (fun _ hq => hq) fun q hq => ⟨q, hq, rfl, rfl⟩

end Traced
end Traffic
end EventRelay
