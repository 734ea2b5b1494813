/-
# What holds between any two moves

`Traffic.Sound` joins what holds of the log (`Log.Holds`), of the polls (`Server.Orderly`)
and of the sessions (`Registry.Settled`) with what holds of the requests on their way: no
two have one ticket, and the source that a request keeps for a new session is that of no
other session and of no other request.

A move is one of a few changes, and each of them keeps a sound state sound: taking notes,
taking a request from where it stood, putting it where it now stands, and changing the
sessions or the polls.  `Traffic.Sound.run` follows by induction on the moves.
-/

import EventRelay.Proofs.Server.Orderly
import EventRelay.Server.Traffic

namespace EventRelay

/-- The source that a request keeps for a new session. -/
def Aim.fresh? : Aim → Option SourceId
  | .opening fresh => some fresh
  | .subscribe _ | .unsubscribe _ | .lookup | .poll => none

/-- The source that a request keeps for a new session, where it now stands. -/
def Pause.fresh? : Pause → Option SourceId
  | .seeking _ aim | .expiring _ aim => aim.fresh?
  | .enlisting e => some e.session.source
  | .closing _ | .sweeping _ | .liningUp _ => none

/-- What a pause relies on: a poll lines up for a session that is there, a new session is as it
was made, and a sweep was asked for in the past. -/
def Pause.Fits (s : Server) : Pause → Prop
  | .liningUp source => source ∈ s.registry.sources
  | .enlisting e => ∃ since start, e = Entry.new since e.session.source start ∧
      -1 ≤ start ∧ start ≤ s.log.cursor
  | .sweeping since => since ≤ s.now
  | .seeking _ _ | .expiring _ _ | .closing _ => True

theorem Pause.Fits.mono {s s' : Server} {p : Pause} (h : p.Fits s)
    (hsources : ∀ u ∈ s.registry.sources, u ∈ s'.registry.sources)
    (hcursor : s.log.cursor ≤ s'.log.cursor) (hnow : s.now ≤ s'.now) : p.Fits s' := by
  cases p with
  | liningUp source => exact hsources source h
  | sweeping since => exact Nat.le_trans h hnow
  | enlisting e =>
    obtain ⟨since, start, he, hlow, hhigh⟩ := h
    exact ⟨since, start, he, hlow, Int.le_trans hhigh hcursor⟩
  | seeking | expiring | closing => trivial

/-- Where a request may stand next that keeps at most one source for a new session.  A session
that is made starts after the last event.  It is granted only when it is put on the list, and
only a poll that has lined up gets a batch. -/
def Standing.Follows (s : Server) (kept : Option SourceId) : Standing → Prop
  | .paused p => p.Fits s ∧ (∀ u, p.fresh? = some u → kept = some u) ∧
      ∀ e, p = .enlisting e → e.session.lastSequence = s.log.cursor
  | .inLine => False
  | .answered answer => (∀ b, answer ≠ .ok (.batch b)) ∧ ∀ id, answer ≠ .ok (.session id)

namespace Server

variable {s : Server} {k : Nat}

theorem follows_makeSession {s' : Server} (hlog : s'.log = s.log) (hcursor : -1 ≤ s.log.cursor)
    (u : SourceId) : (s.makeSession u).Follows s' (some u) :=
  ⟨⟨s.now, s.log.cursor, rfl, hcursor, hlog ▸ Int.le_refl _⟩, fun _ hv => hv, fun _ he => by
    cases he
    exact (Int.max_eq_left hcursor).trans (by rw [hlog])⟩

theorem follows_missed {s' : Server} (hlog : s'.log = s.log) (hcursor : -1 ≤ s.log.cursor)
    (aim : Aim) : (s.missed aim).Follows s' aim.fresh? := by
  cases aim with
  | opening u => exact follows_makeSession hlog hcursor u
  | subscribe | unsubscribe | lookup | poll => exact ⟨by simp, by simp⟩

theorem follows_seek (s : Server) (current : Option SessionId) (aim : Aim) (h : aim.fresh? = none) :
    (s.seek current aim).Follows s none := by
  unfold seek
  split
  · exact ⟨by simp, by simp⟩
  · exact ⟨trivial, fun u hu => h ▸ hu, by simp⟩

/-- Where a request first stands. -/
theorem follows_receive (hcursor : -1 ≤ s.log.cursor) (r : Request) :
    (s.receive r).Follows s r.fresh? := by
  unfold receive
  split
  · exact follows_makeSession rfl hcursor _
  · split
    · exact follows_makeSession rfl hcursor _
    · exact ⟨trivial, fun u hu => hu, by simp⟩
  · exact ⟨by simp, by simp⟩
  · split
    · exact ⟨by simp, by simp⟩
    · exact ⟨trivial, by simp [Pause.fresh?], by simp⟩
  · exact follows_seek s _ _ rfl
  · exact follows_seek s _ _ rfl
  · exact follows_seek s _ _ rfl
  · exact follows_seek s _ _ rfl
  · exact ⟨Nat.le_refl _, by simp [Pause.fresh?], by simp⟩

theorem steady_proceed (s : Server) (k : Nat) (p : Pause) : s.Steady (s.proceed k p).1 := by
  cases p with
  | seeking source aim =>
    simp only [proceed]
    split
    · exact steady_withRegistry s _
    · exact steady_withRegistry s _
    · cases aim <;> exact ⟨rfl, rfl, rfl, rfl⟩
  | closing source =>
    simp only [proceed]
    split <;> exact steady_withRegistry s _
  | expiring | enlisting | sweeping | liningUp => exact ⟨rfl, rfl, rfl, rfl⟩

/-- A request that only reads or changes sessions leaves every mark as it is. -/
theorem proceed_of_keeps (hcursor : -1 ≤ s.log.cursor) (hs : s.registry.Settled) {p : Pause}
    (hnew : ∀ e, p ≠ .enlisting e) (hline : ∀ source, p ≠ .liningUp source) :
    ∃ r, (s.proceed k p).1 = s.withRegistry r ∧ r.marks = s.registry.marks ∧ r.Settled ∧
      (s.proceed k p).2.Follows (s.withRegistry r) p.fresh? := by
  cases p with
  | seeking source aim =>
    simp only [proceed]
    cases hglance : s.registry.glance s.now source with
    | mk r sighting =>
      have hmarks : r.marks = s.registry.marks := by
        simpa [hglance] using Registry.marks_glance s.registry s.now source
      have hsettled : r.Settled := by
        simpa [hglance] using Registry.settled_glance (s := source) hs s.now
      cases sighting with
      | absent =>
        exact ⟨r, rfl, hmarks, hsettled,
          follows_missed (steady_withRegistry s r).log hcursor aim⟩
      | idle => exact ⟨r, rfl, hmarks, hsettled, trivial, fun u hu => hu, by simp⟩
      | live =>
        cases aim with
        | opening u => exact ⟨r, rfl, hmarks, hsettled, by simp, by simp⟩
        | subscribe t =>
          exact ⟨(r.addType source t).1, rfl, (Registry.marks_addType r source t).trans hmarks,
            Registry.settled_addType hsettled t, by simp, by simp⟩
        | unsubscribe t =>
          exact ⟨(r.removeType source t).1, rfl,
            (Registry.marks_removeType r source t).trans hmarks,
            Registry.settled_removeType hsettled t, by simp, by simp⟩
        | lookup => exact ⟨r, rfl, hmarks, hsettled, by simp, by simp⟩
        | poll =>
          obtain ⟨-, e, hlive, -⟩ := Registry.glance_eq_live hglance
          have hsource : source ∈ r.sources := by
            rw [Registry.sources, hmarks]
            exact Registry.entry_isSome_iff.1
              (Option.isSome_iff_exists.2 ⟨e, (Registry.live?_eq_some_iff.1 hlive).1⟩)
          exact ⟨r, rfl, hmarks, hsettled, hsource, by simp [Pause.fresh?], by simp⟩
  | expiring source aim =>
    exact ⟨_, rfl, Registry.marks_expire s.registry s.now source, Registry.settled_expire hs _,
      follows_missed (steady_withRegistry s _).log hcursor aim⟩
  | enlisting e => exact absurd rfl (hnew e)
  | closing source =>
    have hmarks := Registry.marks_invalidate s.registry source
    have hsettled := Registry.settled_invalidate (s := source) hs
    simp only [proceed]
    generalize s.registry.invalidate source = result at hmarks hsettled
    obtain ⟨r, _ | _⟩ := result <;> exact ⟨r, rfl, hmarks, hsettled, by simp, by simp⟩
  | sweeping since =>
    exact ⟨_, rfl, Registry.marks_sweep s.registry since, Registry.settled_sweep hs since,
      by simp, by simp⟩
  | liningUp source => exact absurd rfl (hline source)

end Server

namespace Traffic

/-- The sources that requests keep for new sessions. -/
def reserved (t : Traffic) : List SourceId := t.paused.filterMap fun q => q.2.fresh?

/-- The tickets of all requests that are under way. -/
def tickets (t : Traffic) : List Nat := t.paused.map Prod.fst ++ t.server.polls.map Prod.fst

/-- What holds of a server and the requests under way between two moves. -/
structure Sound (t : Traffic) : Prop where
  ring : t.server.log.Holds t.published
  orderly : t.server.Orderly
  settled : t.server.registry.Settled
  tickets : t.tickets.Nodup
  issued : ∀ k ∈ t.tickets, k < t.ticket
  /-- Nobody else has the source that a request keeps. -/
  sources : (t.server.registry.sources ++ t.reserved).Nodup
  known : ∀ u ∈ t.server.registry.sources ++ t.reserved, t.knows u = true
  fits : ∀ q ∈ t.paused, q.2.Fits t.server

variable {t : Traffic} {k : Nat}

theorem mem_tickets_of_paused {p : Pause} (hp : t.paused.lookup k = some p) : k ∈ t.tickets :=
  List.mem_append_left _ (List.mem_map_of_mem (Tickets.mem_of_lookup hp))

theorem mem_tickets_of_poll {q : Poll} (hq : t.server.poll? k = some q) : k ∈ t.tickets :=
  List.mem_append_right _ (List.mem_map_of_mem (Server.mem_polls_of_poll? hq))

/-- A server that nobody has asked anything yet. -/
theorem eq_of_new {config : ServerConfig} {epoch : Epoch}
    (ht : Traffic.new config epoch = .ok t) :
    ∃ log, Log.new config.bufferCapacity = .ok log ∧
      t = ⟨⟨config, epoch, log, .new config.sessionTtl, 0, []⟩, [], 0, []⟩ := by
  unfold Traffic.new Server.new at ht
  cases hl : Log.new config.bufferCapacity with
  | error fault =>
    rw [hl] at ht
    cases ht
  | ok log =>
    rw [hl] at ht
    cases ht
    exact ⟨log, rfl, rfl⟩

/-- **Which settings make a server:** those with a capacity that there can be a log of. -/
theorem exists_new_iff {config : ServerConfig} {epoch : Epoch} :
    (∃ t, Traffic.new config epoch = .ok t) ↔
      0 < config.bufferCapacity ∧ config.bufferCapacity ≤ Log.maxCapacity := by
  rw [← Log.exists_new_iff]
  constructor
  · rintro ⟨t, ht⟩
    obtain ⟨log, hlog, -⟩ := eq_of_new ht
    exact ⟨log, hlog⟩
  · rintro ⟨log, hlog⟩
    exact ⟨_, by rw [Traffic.new, Server.new, hlog]; rfl⟩

/-- With others that have room for an event the process panics. -/
theorem new_eq_panic_iff {config : ServerConfig} {epoch : Epoch} :
    Traffic.new config epoch = .error .panic ↔ Log.maxCapacity < config.bufferCapacity := by
  rw [← Log.new_eq_panic_iff, Traffic.new, Server.new]
  cases Log.new config.bufferCapacity with
  | error obstacle => simp [Except.map]
  | ok log => simp [Except.map]

theorem published_note (t : Traffic) (ns : List Note) :
    (t.note ns).published = t.published ++ ns.filterMap Note.event? := by
  simp [published, note, List.filterMap_map]

theorem knows_note (t : Traffic) (ns : List Note) (u : SourceId) :
    (t.note ns).knows u = (t.knows u || ns.any (·.mentions u)) := by
  simp [knows, note, List.any_map, Function.comp_def]

/-- Everything that one move can do. -/
inductive Happens (t : Traffic) : Move → Traffic → Prop where
  | arrives (r : Server.Request) (hr : t.admits r = true) : Happens t (.arrive r) (t.arrive r)
  | goesOn (k : Nat) (p : Pause) (hp : t.paused.lookup k = some p) :
    Happens t (.resume k) ({ t.take k with server := (t.server.proceed k p).1 }.settle k
      (t.server.proceed k p).2)
  | polls (k : Nat) (p : Poll) (hk : t.paused.lookup k = none)
      (hp : t.server.poll? k = some p) :
    Happens t (.resume k) ({ t with server := (t.server.advancePoll k).1 }.note
      (pollNotes t.server k p (t.server.advancePoll k).2))
  | leaves (k : Nat) (p : Pause) (hp : t.paused.lookup k = some p) :
    Happens t (.abort k) ((t.take k).note [.aborted k])
  | hangsUp (k : Nat) (p : Poll) (hk : t.paused.lookup k = none)
      (hp : t.server.poll? k = some p) :
    Happens t (.abort k) ({ t with server := t.server.dropPoll k }.note [.aborted k])
  | publishes (stamp : Stamp) (typeId : TypeId) (payload : Json.Value) :
    Happens t (.publish stamp typeId payload)
      ({ t with server := t.server.publish stamp typeId payload }.note
        [.published (t.server.log.nextEvent stamp typeId payload)])
  | passes (nanos : Nat) :
    Happens t (.pass nanos) { t with server := { t.server with now := t.server.now + nanos } }

theorem happens_of_step {m : Move} {t' : Traffic} (ht : t.step m = some t') : Happens t m t' := by
  cases m with
  | arrive r =>
    simp only [step] at ht
    split at ht
    · rename_i hr
      cases ht
      exact .arrives r hr
    · cases ht
  | resume k =>
    simp only [step, resume] at ht
    split at ht
    · rename_i p hp
      cases ht
      exact .goesOn k p hp
    · rename_i hk
      obtain ⟨p, hp, rfl⟩ := Option.map_eq_some_iff.1 ht
      exact .polls k p hk hp
  | abort k =>
    simp only [step, abort] at ht
    split at ht
    · rename_i p hp
      cases ht
      exact .leaves k p hp
    · rename_i hk
      obtain ⟨p, hp, rfl⟩ := Option.map_eq_some_iff.1 ht
      exact .hangsUp k p hk hp
  | publish stamp typeId payload =>
    cases ht
    exact .publishes stamp typeId payload
  | pass nanos =>
    cases ht
    exact .passes nanos

/-- Notes are only added. -/
theorem prefix_notes {m : Move} {t' : Traffic} (ht : Happens t m t') : t.notes <+: t'.notes := by
  have hsettle : ∀ (t₁ : Traffic) (k : Nat) (st : Standing), t₁.notes <+: (t₁.settle k st).notes := by
    intro t₁ k st
    cases st with
    | paused | answered => exact List.prefix_append _ _
    | inLine => exact List.prefix_refl _
  cases ht with
  | arrives r hr =>
    have hnoted : t.notes <+:
        (Traffic.note { t with ticket := t.ticket + 1 } [.arrived t.ticket r]).notes :=
      List.prefix_append _ _
    exact hnoted.trans (hsettle _ _ _)
  | goesOn k p hp => exact hsettle { t.take k with server := (t.server.proceed k p).1 } _ _
  | passes nanos => exact List.prefix_refl _
  | polls | leaves | hangsUp | publishes => exact List.prefix_append _ _

theorem server_settle (t : Traffic) (k : Nat) (st : Standing) :
    (t.settle k st).server = t.server := by
  cases st <;> rfl

/-- What every move keeps holds of every run. -/
theorem run_induction {P : Traffic → Prop} {ms : List Move} {t' : Traffic} (h : P t)
    (hstep : ∀ {t m t'}, P t → step t m = some t' → P t') (ht : t.run ms = some t') : P t' := by
  induction ms generalizing t with
  | nil =>
    cases ht
    exact h
  | cons m ms ih =>
    obtain ⟨t₁, hfirst, hrest⟩ := Option.bind_eq_some_iff.1 ht
    exact ih (hstep h hfirst) hrest

/-- What is noted of a poll publishes nothing. -/
theorem events_pollNotes (s : Server) (k : Nat) (p : Poll) (answer : Option (Outcome Batch)) :
    (pollNotes s k p answer).filterMap Note.event? = [] := by
  unfold pollNotes
  split
  · cases answer <;> rfl
  · split <;> cases answer <;> rfl

namespace Sound

/-- The next ticket stands nowhere. -/
theorem lookup_ticket (h : t.Sound) : t.paused.lookup t.ticket = none :=
  Option.eq_none_iff_forall_ne_some.2 fun _ hp =>
    Nat.lt_irrefl _ (h.issued _ (mem_tickets_of_paused hp))

theorem poll_ticket (h : t.Sound) : t.server.poll? t.ticket = none :=
  Option.eq_none_iff_forall_ne_some.2 fun _ hq =>
    Nat.lt_irrefl _ (h.issued _ (mem_tickets_of_poll hq))

theorem cursor_ge (h : t.Sound) : -1 ≤ t.server.log.cursor := by
  rw [h.ring.cursor_eq]
  omega

theorem new {config : ServerConfig} {epoch : Epoch} (ht : Traffic.new config epoch = .ok t) :
    t.Sound := by
  obtain ⟨log, hlog, rfl⟩ := eq_of_new ht
  have hserver : Server.new config epoch =
      .ok ⟨config, epoch, log, .new config.sessionTtl, 0, []⟩ := by
    rw [Server.new, hlog]
    rfl
  refine ⟨Log.Holds.new hlog, Server.Orderly.new hserver, fun e he => ?_, ?_, ?_, ?_, ?_, ?_⟩
  · simp [Registry.new] at he
  all_goals simp [Traffic.tickets, reserved, Registry.sources, Registry.marks, Registry.new]

/-! ### The changes that moves are made of -/

/-- Notes that publish nothing. -/
theorem note (h : t.Sound) {ns : List Note} (hns : ns.filterMap Note.event? = []) :
    (t.note ns).Sound := by
  have hpublished : (t.note ns).published = t.published := by
    rw [published_note, hns, List.append_nil]
  refine { h with ring := hpublished ▸ h.ring, known := fun u hu => ?_ }
  rw [knows_note, h.known u hu, Bool.true_or]

/-- A request is taken from where it stood. -/
theorem take (h : t.Sound) (k : Nat) : (t.take k).Sound := by
  have hpaused : (t.take k).paused.Sublist t.paused := List.filter_sublist
  have htickets : (t.take k).tickets.Sublist t.tickets :=
    (hpaused.map _).append (List.Sublist.refl _)
  have hreserved : (t.server.registry.sources ++ (t.take k).reserved).Sublist
      (t.server.registry.sources ++ t.reserved) :=
    (List.Sublist.refl _).append (hpaused.filterMap _)
  exact
    { h with
      tickets := h.tickets.sublist htickets
      issued := fun j hj => h.issued j (htickets.subset hj)
      sources := h.sources.sublist hreserved
      known := fun u hu => h.known u (hreserved.subset hu)
      fits := fun q hq => h.fits q (hpaused.subset hq) }

/-- The ticket of a request that was taken is free. -/
theorem not_mem_take (h : t.Sound) {p : Pause} (hp : t.paused.lookup k = some p) :
    k ∉ (t.take k).tickets := by
  have hmem := Tickets.mem_of_lookup hp
  intro hk
  rcases List.mem_append.1 hk with hold | hpoll
  · obtain ⟨q, hq, rfl⟩ := List.mem_map.1 hold
    exact (Tickets.mem_without.1 hq).2 rfl
  · exact (List.nodup_append.1 h.tickets).2.2 _ (List.mem_map_of_mem hmem) _ hpoll rfl

/-- The source that a request kept is free when it is taken. -/
theorem not_mem_reserved_take (h : t.Sound) {p : Pause} (hp : t.paused.lookup k = some p)
    {u : SourceId} (hu : p.fresh? = some u) :
    u ∉ t.server.registry.sources ++ (t.take k).reserved ∧ t.knows u = true := by
  have hmem := Tickets.mem_of_lookup hp
  have hreserved : u ∈ t.reserved := List.mem_filterMap.2 ⟨_, hmem, hu⟩
  obtain ⟨-, hnodup, hdisjoint⟩ := List.nodup_append.1 h.sources
  refine ⟨?_, h.known u (List.mem_append_right _ hreserved)⟩
  intro hin
  rcases List.mem_append.1 hin with hold | hother
  · exact hdisjoint u hold u hreserved rfl
  · obtain ⟨q, hq, hqu⟩ := List.mem_filterMap.1 hother
    obtain ⟨hq, hne⟩ := Tickets.mem_without.1 hq
    rw [Tickets.unique_of_filterMap hnodup hq hmem hqu hu] at hne
    exact hne rfl

/-- A request is put where it now stands. -/
theorem settle (h : t.Sound) {st : Standing} {kept : Option SourceId}
    (hst : st.Follows t.server kept) (hfree : k ∉ t.tickets) (hissued : k < t.ticket)
    (hkept : ∀ u, kept = some u →
      u ∉ t.server.registry.sources ++ t.reserved ∧ t.knows u = true) :
    (t.settle k st).Sound := by
  cases st with
  | answered answer => exact h.note rfl
  | inLine => exact h
  | paused p =>
    obtain ⟨hfits, hfresh, -⟩ := hst
    have htickets : (Traffic.tickets { t with paused := t.paused ++ [(k, p)] }).Perm
        (k :: t.tickets) := by
      simp [Traffic.tickets]
    have hreserved : Traffic.reserved { t with paused := t.paused ++ [(k, p)] } =
        t.reserved ++ p.fresh?.toList := by
      cases hp : p.fresh? <;> simp [reserved, hp]
    have hput : Sound { t with paused := t.paused ++ [(k, p)] } := by
      refine ⟨h.ring, h.orderly, h.settled, ?_, ?_, ?_, ?_, ?_⟩
      · exact htickets.nodup_iff.2 (List.nodup_cons.2 ⟨hfree, h.tickets⟩)
      · intro j hj
        rcases List.mem_cons.1 (htickets.subset hj) with rfl | hold
        · exact hissued
        · exact h.issued j hold
      · rw [hreserved, ← List.append_assoc]
        cases hp : p.fresh? with
        | none => simpa using h.sources
        | some u => exact List.concat_eq_append ▸ h.sources.concat (hkept u (hfresh u hp)).1
      · intro u hu
        rw [hreserved, ← List.append_assoc] at hu
        rcases List.mem_append.1 hu with hold | hnew
        · exact h.known u hold
        · exact (hkept u (hfresh u (Option.mem_toList.1 hnew))).2
      · intro q hq
        rcases List.mem_append.1 hq with hold | hnew
        · exact h.fits q hold
        · rw [List.mem_singleton.1 hnew]
          exact hfits
    refine hput.note ?_
    cases p <;> rfl

/-- The sessions or the polls change. -/
theorem withServer (h : t.Sound) {s : Server} (hs : s.Orderly) (hsettled : s.registry.Settled)
    (hsteady : t.server.Steady s) (hsources : s.registry.sources = t.server.registry.sources)
    (htickets : (s.polls.map Prod.fst).Sublist (t.server.polls.map Prod.fst)) :
    Sound { t with server := s } := by
  have htickets' := (List.Sublist.refl (t.paused.map Prod.fst)).append htickets
  refine ⟨hsteady.log ▸ h.ring, hs, hsettled, h.tickets.sublist htickets',
    fun j hj => h.issued j (htickets'.subset hj), hsources ▸ h.sources,
    hsources ▸ h.known, fun q hq => ?_⟩
  exact (h.fits q hq).mono (fun u hu => hsources ▸ hu) (Int.le_of_eq (by rw [hsteady.log]))
    (Nat.le_of_eq hsteady.now.symm)

/-- A new session is put on the list. -/
theorem enlist (h : t.Sound) {e : Entry} (hfits : (Pause.enlisting e).Fits t.server)
    (hfree : e.session.source ∉ t.server.registry.sources ++ t.reserved)
    (hknown : t.knows e.session.source = true) :
    Sound { t with server := t.server.withRegistry (t.server.registry.enlist e) } := by
  obtain ⟨since, start, he, hlow, hhigh⟩ := hfits
  have hlast : e.session.lastSequence = start := by
    rw [he]
    exact Int.max_eq_left hlow
  have hsources := Registry.sources_enlist t.server.registry e
  have hperm : ((t.server.registry.enlist e).sources ++ t.reserved).Perm
      (e.session.source :: (t.server.registry.sources ++ t.reserved)) := by
    simp [hsources]
  refine ⟨h.ring, ?_, ?_, h.tickets, h.issued, ?_, ?_, fun q hq => ?_⟩
  · exact h.orderly.enlist (fun hin => hfree (List.mem_append_left _ hin)) (by rw [he]; rfl)
      (by omega) (by omega)
  · exact Registry.settled_enlist h.settled (by rw [he]; rfl)
  · exact hperm.nodup_iff.2 (List.nodup_cons.2 ⟨hfree, h.sources⟩)
  · intro u hu
    rcases List.mem_cons.1 (hperm.subset hu) with rfl | hold
    · exact hknown
    · exact h.known u hold
  · exact (h.fits q hq).mono (fun u hu => hsources ▸ List.mem_append_left _ hu) (Int.le_refl _)
      (Nat.le_refl _)

/-- A poll queues up. -/
theorem lineUp (h : t.Sound) {source : SourceId} (hsource : source ∈ t.server.registry.sources)
    (hfree : k ∉ t.tickets) (hissued : k < t.ticket) :
    Sound { t with server := t.server.lineUp k source } := by
  have hsources := Registry.sources_enqueue t.server.registry source k
  have hperm : (Traffic.tickets { t with server := t.server.lineUp k source }).Perm
      (k :: t.tickets) := by
    simp only [Traffic.tickets, Server.lineUp, List.map_append, List.map_cons, List.map_nil,
      ← List.append_assoc]
    exact List.perm_append_singleton _ _
  refine ⟨h.ring, ?_, Registry.settled_enqueue h.settled k, ?_, ?_, hsources ▸ h.sources,
    hsources ▸ h.known, fun q hq => ?_⟩
  · exact h.orderly.lineUp (fun hk => hfree (List.mem_append_right _ hk)) hsource
  · exact hperm.nodup_iff.2 (List.nodup_cons.2 ⟨hfree, h.tickets⟩)
  · intro j hj
    rcases List.mem_cons.1 (hperm.subset hj) with rfl | hold
    · exact hissued
    · exact h.issued j hold
  · exact (h.fits q hq).mono (fun u hu => hsources ▸ hu) (Int.le_refl _) (Nat.le_refl _)

/-- An event is published. -/
theorem publish (h : t.Sound) (stamp : Stamp) (typeId : TypeId) (payload : Json.Value) :
    Sound ({ t with server := t.server.publish stamp typeId payload }.note
      [.published (t.server.log.nextEvent stamp typeId payload)]) := by
  have hpublished := published_note
    { t with server := t.server.publish stamp typeId payload }
    [.published (t.server.log.nextEvent stamp typeId payload)]
  refine ⟨?_, h.orderly.publish stamp typeId payload, h.settled, h.tickets, h.issued, h.sources,
    fun u hu => ?_, fun q hq => ?_⟩
  · rw [hpublished]
    exact h.ring.publish stamp typeId payload
  · rw [knows_note]
    exact Bool.or_eq_true_iff.2 (.inl (h.known u hu))
  · refine (h.fits q hq).mono (fun u hu => hu) ?_ (Nat.le_refl _)
    simp only [Traffic.note, Server.publish, Log.cursor_publish]
    omega

/-- Time passes. -/
theorem pass (h : t.Sound) (nanos : Nat) :
    Sound { t with server := { t.server with now := t.server.now + nanos } } :=
  { h with
    orderly := h.orderly.pass nanos
    fits := fun q hq => (h.fits q hq).mono (fun _ hu => hu) (Int.le_refl _) (Nat.le_add_right _ _) }

/-! ### Moves -/

/-- A request arrives. -/
theorem arrive (h : t.Sound) {r : Server.Request} (hr : t.admits r = true) :
    (t.arrive r).Sound := by
  have hticket : Sound { t with ticket := t.ticket + 1 } :=
    { h with issued := fun j hj => Nat.lt_succ_of_lt (h.issued j hj) }
  have hnoted : (Traffic.note { t with ticket := t.ticket + 1 } [.arrived t.ticket r]).Sound :=
    hticket.note rfl
  refine hnoted.settle (Server.follows_receive h.cursor_ge r) (fun hk => ?_) (Nat.lt_succ_self _)
    fun u hu => ⟨?_, ?_⟩
  · exact Nat.lt_irrefl _ (h.issued _ hk)
  · intro hin
    have hknown := h.known u hin
    simp [admits, hu, hknown] at hr
  · rw [knows_note]
    simp [Note.mentions, Server.Request.mentions, hu]

/-- A request goes on. -/
theorem resume_paused (h : t.Sound) {p : Pause} (hp : t.paused.lookup k = some p) :
    Traffic.Sound ({ t.take k with server := (t.server.proceed k p).1 }.settle k
      (t.server.proceed k p).2) := by
  have hfits := h.fits _ (Tickets.mem_of_lookup hp)
  have hfree := h.not_mem_take hp
  have hissued : k < t.ticket := h.issued k (mem_tickets_of_paused hp)
  by_cases hnew : ∃ e, p = .enlisting e
  · obtain ⟨e, rfl⟩ := hnew
    obtain ⟨hsource, hknown⟩ := h.not_mem_reserved_take hp rfl
    exact ((h.take k).enlist hfits hsource hknown).note rfl
  by_cases hline : ∃ source, p = .liningUp source
  · obtain ⟨source, rfl⟩ := hline
    exact (h.take k).lineUp hfits hfree hissued
  obtain ⟨r, hserver, hmarks, hsettled, hfollows⟩ := Server.proceed_of_keeps (k := k) h.cursor_ge
    h.settled (fun e he => hnew ⟨e, he⟩) fun source hs => hline ⟨source, hs⟩
  have hsources : r.sources = t.server.registry.sources := by
    rw [Registry.sources, hmarks]
    rfl
  have hnext := (h.take k).withServer (h.orderly.withRegistry hmarks) hsettled
    (Server.steady_withRegistry _ _) hsources
    (List.Sublist.refl _)
  rw [hserver]
  refine hnext.settle hfollows hfree hissued fun u hu => ?_
  obtain ⟨hsource, hknown⟩ := h.not_mem_reserved_take hp hu
  exact ⟨hsources ▸ hsource, hknown⟩

/-- A poll that has lined up goes on. -/
theorem resume_poll (h : t.Sound) {p : Poll} (hp : t.server.poll? k = some p) :
    Traffic.Sound ({ t with server := (t.server.advancePoll k).1 }.note
      (pollNotes t.server k p (t.server.advancePoll k).2)) := by
  obtain ⟨e, he⟩ := h.orderly.entry_of_poll hp
  have hstep := h.orderly.pollStep h.ring hp he
  refine (h.withServer (h.orderly.advancePoll h.ring k) (hstep.settled hp h.settled)
    hstep.steady (hstep.sources hp) (hstep.tickets hp)).note (events_pollNotes _ _ _ _)

/-- **Whatever happens next**, what holds goes on to hold. -/
theorem step (h : t.Sound) {m : Move} {t' : Traffic} (ht : t.step m = some t') : t'.Sound := by
  cases happens_of_step ht with
  | arrives r hr => exact h.arrive hr
  | goesOn k p hp => exact h.resume_paused hp
  | polls k p hk hp => exact h.resume_poll hp
  | leaves k p hp => exact (h.take k).note rfl
  | hangsUp k p hk hp =>
    refine (h.withServer (h.orderly.dropPoll hp) ?_ (Server.steady_dropPoll _ k) ?_ ?_).note rfl
    all_goals rw [Server.dropPoll_eq hp]
    · exact Registry.settled_release h.settled k
    · exact Registry.sources_release _ _ _
    · exact List.filter_sublist.map _
  | publishes stamp typeId payload => exact h.publish stamp typeId payload
  | passes nanos => exact h.pass nanos

/-- The settings stay, and the server is the same process. -/
theorem settings_step (h : t.Sound) {m : Move} {t' : Traffic} (ht : t.step m = some t') :
    t'.server.config = t.server.config ∧ t'.server.epoch = t.server.epoch := by
  cases happens_of_step ht with
  | arrives r hr =>
    rw [Traffic.arrive, server_settle]
    exact ⟨rfl, rfl⟩
  | goesOn k p hp =>
    rw [server_settle]
    have hsteady := Server.steady_proceed t.server k p
    exact ⟨hsteady.config, hsteady.epoch⟩
  | polls k p hk hp =>
    obtain ⟨e, he⟩ := h.orderly.entry_of_poll hp
    have hsteady := (h.orderly.pollStep h.ring hp he).steady
    exact ⟨hsteady.config, hsteady.epoch⟩
  | hangsUp k p hk hp =>
    have hsteady := Server.steady_dropPoll t.server k
    exact ⟨hsteady.config, hsteady.epoch⟩
  | leaves | publishes | passes => exact ⟨rfl, rfl⟩

theorem config_step (h : t.Sound) {m : Move} {t' : Traffic} (ht : t.step m = some t') :
    t'.server.config = t.server.config :=
  (h.settings_step ht).1

/-- **What holds of every run.** -/
theorem run (h : t.Sound) {ms : List Move} {t' : Traffic} (ht : t.run ms = some t') :
    t'.Sound :=
  run_induction h (fun h hstep => h.step hstep) ht

theorem config_run (h : t.Sound) {ms : List Move} {t' : Traffic} (ht : t.run ms = some t') :
    t'.server.config = t.server.config := by
  have hkept : t'.Sound ∧ t'.server.config = t.server.config :=
    run_induction (P := fun t₁ => t₁.Sound ∧ t₁.server.config = t.server.config) ⟨h, rfl⟩
      (fun hkept hstep => ⟨hkept.1.step hstep, (hkept.1.config_step hstep).trans hkept.2⟩) ht
  exact hkept.2

end Sound

/-! ### Names for small runs -/

namespace Sample

theorem epoch_lt : 1 < 1 <<< 32 := by decide

def epoch : Epoch := ⟨1, epoch_lt⟩

theorem source_lt : 7 < 1 <<< 128 := by decide

def source : SourceId := ⟨⟨7, source_lt⟩⟩

def id : SessionId := ⟨epoch, source⟩

theorem typeId_valid : TypeId.problem? "tick" = none := by decide

def typeId : TypeId := ⟨"tick", typeId_valid⟩

/-- An event is published. -/
def publish : Move := .publish ⟨⟨9, by decide⟩, .ofUnixNanos 0⟩ typeId .null

/-- A session is opened by the first request. -/
def opened : List Move := [.arrive (.openSession none source), .resume 0]

/-- The poll with ticket 1 looks its session up, lines up and gets the turn. -/
def waiting : List Move := opened ++ [.arrive (.poll (some id)), .resume 1, .resume 1, .resume 1]

/-- A run from the start. -/
def play (config : ServerConfig) (ms : List Move) : Option Traffic :=
  (Traffic.new config epoch).toOption.bind fun t => t.run ms

theorem exists_start {α : Type} {config : ServerConfig} {f : Traffic → Option α} {a : α}
    (h : (Traffic.new config epoch).toOption.bind f = some a) :
    ∃ t₀, Traffic.new config epoch = .ok t₀ ∧ f t₀ = some a := by
  obtain ⟨t₀, hnew, hf⟩ := Option.bind_eq_some_iff.1 h
  refine ⟨t₀, ?_, hf⟩
  cases hn : Traffic.new config epoch with
  | error fault =>
    rw [hn] at hnew
    cases hnew
  | ok t₁ =>
    rw [hn] at hnew
    cases hnew
    rfl

theorem run_of_play {config : ServerConfig} {ms : List Move} {t : Traffic}
    (h : play config ms = some t) :
    ∃ t₀, Traffic.new config epoch = .ok t₀ ∧ t₀.run ms = some t :=
  exists_start h

end Sample
end Traffic
end EventRelay
