/-
# What sessions pass over

A session that is made stands at the last event (`Traffic.openings`), and each poll that
gives a batch or finds an overflow moves it from where it stands to the last event.  These
moves are its passages (`Traffic.passages`).  They begin where the session began, each
begins where the one before it ended, and the session stands where the last of them ended:
they tile what it has gone through (`Traffic.Toured`).  So passages never overlap and never
leave anything out, and nothing but a passage moves a session.
-/

import EventRelay.Proofs.Server.Turns

namespace EventRelay

/-- The session that a note says was made, by whom, and where it starts. -/
def Note.opening? : Note → Option (Nat × SourceId × Int)
  | opened k source cursor => some (k, source, cursor)
  | arrived _ _ | published _ | turned _ _ | polled _ _ _ | answered _ _ | aborted _ => none

/-- How far a poll of a session that ended with an answer moved it, if it did. -/
def Session.passage? (session : Session) : Outcome Batch → Option (Int × Int)
  | .ok b => some (session.lastSequence, b.cursor)
  | .error (.overflow cursor _ _) => some (session.lastSequence, cursor)
  | .error _ => none

/-- How far the session of a source was moved, if a note says that it was. -/
def Note.passage? (u : SourceId) : Note → Option (Int × Int)
  | polled _ session answer => if session.source = u then session.passage? answer else none
  | arrived _ _ | published _ | opened _ _ _ | turned _ _ | answered _ _ | aborted _ => none

/-- The source of the session that a request makes unless it finds one. -/
def Pause.unmade? : Pause → Option SourceId
  | .seeking _ aim | .expiring _ aim => aim.fresh?
  | .enlisting _ | .closing _ | .sweeping _ | .liningUp _ => none

theorem Pause.fresh?_of_unmade? {p : Pause} {u : SourceId} (h : p.unmade? = some u) :
    p.fresh? = some u := by
  cases p with
  | seeking | expiring => exact h
  | enlisting | closing | sweeping | liningUp => cases h

/-- **Stretches without a gap.**  Each begins where the one before it ends, the first at `start`,
and the last ends at `stop`. -/
def Tiles : (start : Int) → List (Int × Int) → (stop : Int) → Prop
  | start, [], stop => start = stop
  | start, p :: ps, stop => p.1 = start ∧ p.1 ≤ p.2 ∧ Tiles p.2 ps stop

namespace Tiles

variable {start stop : Int} {ps : List (Int × Int)}

theorem snoc (h : Tiles start ps stop) {next : Int} (hle : stop ≤ next) :
    Tiles start (ps ++ [(stop, next)]) next := by
  induction ps generalizing start with
  | nil =>
    cases h
    exact ⟨rfl, hle, rfl⟩
  | cons p ps ih =>
    obtain ⟨hstart, hp, hrest⟩ := h
    exact ⟨hstart, hp, ih hrest⟩

/-- Stretches without a gap end in one place. -/
theorem unique (h : Tiles start ps stop) {stop' : Int} (h' : Tiles start ps stop') :
    stop = stop' := by
  induction ps generalizing start with
  | nil => exact h.symm.trans h'
  | cons p ps ih => exact ih h.2.2 h'.2.2

theorem le (h : Tiles start ps stop) : start ≤ stop := by
  induction ps generalizing start with
  | nil => exact Int.le_of_eq h
  | cons p ps ih =>
    obtain ⟨hstart, hp, hrest⟩ := h
    have := ih hrest
    omega

/-- Every stretch lies between the two ends. -/
theorem mem (h : Tiles start ps stop) {p : Int × Int} (hp : p ∈ ps) :
    start ≤ p.1 ∧ p.1 ≤ p.2 ∧ p.2 ≤ stop := by
  induction ps generalizing start with
  | nil => cases hp
  | cons q ps ih =>
    obtain ⟨hstart, hq, hrest⟩ := h
    rcases List.mem_cons.1 hp with rfl | hin
    · exact ⟨Int.le_of_eq hstart.symm, hq, hrest.le⟩
    · obtain ⟨hlow, hle, hhigh⟩ := ih hrest hin
      exact ⟨by omega, hle, hhigh⟩

/-- A later stretch begins no earlier than the ones before it end. -/
theorem pairwise (h : Tiles start ps stop) : ps.Pairwise fun p q => p.2 ≤ q.1 := by
  induction ps generalizing start with
  | nil => exact List.Pairwise.nil
  | cons p ps ih =>
    obtain ⟨-, -, hrest⟩ := h
    exact List.Pairwise.cons (fun q hq => (hrest.mem hq).1) (ih hrest)

end Tiles

namespace Traffic

/-- The sessions that were made: by whom, their sources, and where they start. -/
def openings (t : Traffic) : List (Nat × SourceId × Int) := t.notes.filterMap fun n => n.2.opening?

/-- How the session of a source was moved, from where to where, one move after the other. -/
def passages (t : Traffic) (u : SourceId) : List (Int × Int) :=
  t.notes.filterMap fun n => n.2.passage? u

variable {t t' : Traffic} {k : Nat}

theorem openings_note (t : Traffic) (ns : List Note) :
    (t.note ns).openings = t.openings ++ ns.filterMap Note.opening? := by
  simp [openings, note, List.filterMap_map]

theorem passages_note (t : Traffic) (ns : List Note) (u : SourceId) :
    (t.note ns).passages u = t.passages u ++ ns.filterMap (Note.passage? u) := by
  simp [passages, note, List.filterMap_map]

theorem passages_of_turnNotes (hnotes : t'.turnNotes = t.turnNotes) (u : SourceId) :
    t'.passages u = t.passages u := by
  refine filterMap_of_turnNotes (fun n hn => ?_) hnotes
  cases n <;> first | rfl | cases hn

/-! ### Sessions that are made -/

/-- What the notes say of the sessions that were made. -/
structure Opened (t : Traffic) : Prop where
  once : (t.openings.map fun o => o.2.1).Nodup
  known : ∀ o ∈ t.openings, t.knows o.2.1 = true
  unmade : ∀ q ∈ t.paused, ∀ {u}, q.2.unmade? = some u → ∀ o ∈ t.openings, o.2.1 ≠ u
  made : ∀ q ∈ t.paused, ∀ {e}, q.2 = .enlisting e →
    (q.1, e.session.source, e.session.lastSequence) ∈ t.openings
  /-- A session that was granted was made for its caller, and is on the server. -/
  granted : ∀ n ∈ t.notes, ∀ {k id}, n.2 = .answered k (.ok (.session id)) →
    id.epoch = t.server.epoch ∧ id.source ∈ t.server.registry.sources ∧
      ∃ start, (k, id.source, start) ∈ t.openings

theorem openings_pollNotes (s : Server) (k : Nat) (p : Poll) (answer : Option (Outcome Batch)) :
    (pollNotes s k p answer).filterMap Note.opening? = [] := by
  unfold pollNotes
  split
  · cases answer <;> rfl
  · split <;> cases answer <;> rfl

theorem not_mem_pollNotes (s : Server) (k : Nat) (p : Poll) (answer : Option (Outcome Batch))
    (j : Nat) (id : SessionId) : .answered j (.ok (.session id)) ∉ pollNotes s k p answer := by
  have hne : ∀ a : Outcome Batch, a.map Served.batch ≠ .ok (.session id) := by
    rintro (fault | b) <;> nofun
  unfold pollNotes
  split
  · cases answer with
    | none => simp
    | some a => simpa using fun _ => (hne a).symm
  · split <;> cases answer with
    | none => simp
    | some a => simpa using fun _ => (hne a).symm

namespace Opened

theorem new {config : ServerConfig} {epoch : Epoch} (ht : Traffic.new config epoch = .ok t) :
    t.Opened := by
  obtain ⟨log, -, rfl⟩ := eq_of_new ht
  exact ⟨by simp [openings], by simp [openings], by simp, by simp, by simp⟩

/-- Requests are taken and sessions change, but none is forgotten. -/
theorem change (h : t.Opened) {t₁ : Traffic} (hnotes : t₁.notes = t.notes)
    (hpaused : ∀ q ∈ t₁.paused, q ∈ t.paused) (hepoch : t₁.server.epoch = t.server.epoch)
    (hsources : ∀ u ∈ t.server.registry.sources, u ∈ t₁.server.registry.sources) :
    t₁.Opened := by
  have hopenings : t₁.openings = t.openings := by
    rw [openings, hnotes]
    rfl
  refine ⟨hopenings ▸ h.once, fun o ho => ?_, fun q hq => ?_, fun q hq => ?_, fun n hn k id he => ?_⟩
  · rw [knows, hnotes]
    exact h.known o (hopenings ▸ ho)
  · rw [hopenings]
    exact h.unmade q (hpaused q hq)
  · rw [hopenings]
    exact h.made q (hpaused q hq)
  · obtain ⟨hid, hsource, hstart⟩ := h.granted n (hnotes ▸ hn) he
    exact ⟨hid.trans hepoch.symm, hsources _ hsource, hopenings ▸ hstart⟩

/-- Notes that make no session, and grant only one that was made for its caller. -/
theorem note (h : t.Opened) {ns : List Note} (hns : ns.filterMap Note.opening? = [])
    (hgrant : ∀ j id, .answered j (.ok (.session id)) ∈ ns → id.epoch = t.server.epoch ∧
      id.source ∈ t.server.registry.sources ∧ ∃ start, (j, id.source, start) ∈ t.openings) :
    (t.note ns).Opened := by
  have hopenings : (t.note ns).openings = t.openings := by
    rw [openings_note, hns, List.append_nil]
  refine ⟨hopenings ▸ h.once, fun o ho => ?_, ?_, ?_, fun n hn k id he => ?_⟩
  · rw [knows_note]
    exact Bool.or_eq_true_iff.2 (.inl (h.known o (hopenings ▸ ho)))
  · exact hopenings ▸ h.unmade
  · exact hopenings ▸ h.made
  · rw [hopenings]
    rcases List.mem_append.1 hn with hold | hnew
    · exact h.granted n hold he
    · obtain ⟨n', hn', rfl⟩ := List.mem_map.1 hnew
      exact hgrant k id (he ▸ hn')

/-- A request stops that has made no session. -/
theorem stop (h : t.Opened) {p : Pause} (hp : ∀ e, p ≠ .enlisting e)
    (hunmade : ∀ u, p.unmade? = some u → ∀ o ∈ t.openings, o.2.1 ≠ u) :
    Opened { t with paused := t.paused ++ [(k, p)] } := by
  refine ⟨h.once, h.known, fun q hq u hu => ?_, fun q hq e he => ?_, h.granted⟩
  · rcases List.mem_append.1 hq with hold | hnew
    · exact h.unmade q hold hu
    · rw [List.mem_singleton.1 hnew] at hu
      exact hunmade u hu
  · rcases List.mem_append.1 hq with hold | hnew
    · exact h.made q hold he
    · rw [List.mem_singleton.1 hnew] at he
      exact absurd he (hp e)

/-- A request stops that has made a session, of a source of which none was made before. -/
theorem make (h : t.Opened) {e : Entry} (hstart : e.session.lastSequence = t.server.log.cursor)
    (hknown : t.knows e.session.source = true) (hreserved : e.session.source ∉ t.reserved)
    (hunmade : ∀ o ∈ t.openings, o.2.1 ≠ e.session.source) :
    (t.settle k (.paused (.enlisting e))).Opened := by
  have hopenings : (t.settle k (.paused (.enlisting e))).openings =
      t.openings ++ [(k, e.session.source, e.session.lastSequence)] := by
    rw [hstart]
    exact openings_note _ _
  have hmem : ∀ o ∈ (t.settle k (.paused (.enlisting e))).openings,
      o ∈ t.openings ∨ o = (k, e.session.source, e.session.lastSequence) := by
    intro o ho
    rw [hopenings] at ho
    exact (List.mem_append.1 ho).imp_right List.mem_singleton.1
  refine ⟨?_, fun o ho => (knows_note _ _ _).trans (Bool.or_eq_true_iff.2 (.inl ?_)),
    fun q hq u hu o ho => ?_, fun q hq e' he' => ?_, fun n hn j id he => ?_⟩
  · rw [hopenings, List.map_append]
    refine List.concat_eq_append ▸ h.once.concat fun hin => ?_
    obtain ⟨o, ho, heq⟩ := List.mem_map.1 hin
    exact hunmade o ho heq
  · rcases hmem o ho with hold | rfl
    · exact h.known o hold
    · exact hknown
  · rcases List.mem_append.1 hq with hold | hnew
    · rcases hmem o ho with hold' | rfl
      · exact h.unmade q hold hu o hold'
      · rintro rfl
        exact hreserved (List.mem_filterMap.2 ⟨q, hold, Pause.fresh?_of_unmade? hu⟩)
    · rw [List.mem_singleton.1 hnew] at hu
      cases hu
  · rw [hopenings]
    rcases List.mem_append.1 hq with hold | hnew
    · exact List.mem_append_left _ (h.made q hold he')
    · rw [List.mem_singleton.1 hnew] at he' ⊢
      cases he'
      exact List.mem_append_right _ (List.mem_singleton.2 rfl)
  · rcases List.mem_append.1 hn with hold | hnew
    · obtain ⟨hid, hsource, start, hmade⟩ := h.granted n hold he
      exact ⟨hid, hsource, start, hopenings ▸ List.mem_append_left _ hmade⟩
    · obtain ⟨n', hn', rfl⟩ := List.mem_map.1 hnew
      rw [List.mem_singleton.1 hn'] at he
      cases he

/-- A request is put where it now stands; if it keeps a source, no session was made of it. -/
theorem settle (h : t.Opened) {st : Standing} {kept : Option SourceId}
    (hst : st.Follows t.server kept)
    (hkept : ∀ u, kept = some u → t.knows u = true ∧ u ∉ t.reserved ∧
      ∀ o ∈ t.openings, o.2.1 ≠ u) : (t.settle k st).Opened := by
  cases st with
  | inLine => exact h
  | answered answer =>
    refine h.note rfl fun j id hn => ?_
    cases List.mem_singleton.1 hn
    exact absurd rfl (hst.2 id)
  | paused p =>
    obtain ⟨-, hfresh, hstart⟩ := hst
    cases p with
    | enlisting e =>
      obtain ⟨hknown, hreserved, hunmade⟩ := hkept _ (hfresh _ rfl)
      exact h.make (hstart e rfl) hknown hreserved hunmade
    | seeking | expiring | closing | sweeping | liningUp =>
      refine (h.stop (by simp) fun u hu => ?_).note rfl (by simp [stopNotes])
      exact (hkept u (hfresh u (Pause.fresh?_of_unmade? hu))).2.2

/-- A request goes on. -/
theorem goesOn (h : t.Opened) (hs : t.Sound) {p : Pause} (hp : t.paused.lookup k = some p) :
    Traffic.Opened ({ t.take k with server := (t.server.proceed k p).1 }.settle k
      (t.server.proceed k p).2) := by
  have hmem := Tickets.mem_of_lookup hp
  by_cases hnew : ∃ e, p = .enlisting e
  · obtain ⟨e, rfl⟩ := hnew
    have hsources := Registry.sources_enlist t.server.registry e
    have hput : Traffic.Opened
        { t.take k with server := t.server.withRegistry (t.server.registry.enlist e) } :=
      h.change rfl (fun q hq => (Tickets.mem_without.1 hq).1) rfl fun u hu =>
        hsources ▸ List.mem_append_left _ hu
    refine hput.note rfl fun j id hn => ?_
    cases List.mem_singleton.1 hn
    exact ⟨rfl, hsources ▸ List.mem_append_right _ (List.mem_singleton.2 rfl),
      e.session.lastSequence, h.made _ hmem rfl⟩
  by_cases hline : ∃ source, p = .liningUp source
  · obtain ⟨source, rfl⟩ := hline
    exact h.change rfl (fun q hq => (Tickets.mem_without.1 hq).1) rfl fun u hu =>
      (Registry.sources_enqueue _ _ _).symm ▸ hu
  obtain ⟨r, hserver, hmarks, -, hfollows⟩ := Server.proceed_of_keeps (k := k) hs.cursor_ge
    hs.settled (fun e he => hnew ⟨e, he⟩) fun source hs => hline ⟨source, hs⟩
  rw [hserver]
  have hput : Traffic.Opened { t.take k with server := t.server.withRegistry r } :=
    h.change rfl (fun q hq => (Tickets.mem_without.1 hq).1) rfl fun u hu => by
      rw [Registry.sources] at hu ⊢
      exact hmarks ▸ hu
  refine hput.settle hfollows fun u hu => ?_
  obtain ⟨hfree, hknown⟩ := hs.not_mem_reserved_take hp hu
  have hunmade : p.unmade? = some u := by
    cases p with
    | enlisting e => exact absurd ⟨e, rfl⟩ hnew
    | liningUp source => exact absurd ⟨source, rfl⟩ hline
    | seeking | expiring => exact hu
    | closing | sweeping => cases hu
  exact ⟨hknown, fun hin => hfree (List.mem_append_right _ hin), h.unmade _ hmem hunmade⟩

/-- **Whatever happens next.** -/
theorem step (h : t.Opened) (hs : t.Sound) {m : Move} (ht : t.step m = some t') : t'.Opened := by
  cases happens_of_step ht with
  | arrives r hr =>
    have hput : Traffic.Opened { t with ticket := t.ticket + 1 } :=
      h.change rfl (fun _ hq => hq) rfl fun _ hu => hu
    have hnoted : (Traffic.note { t with ticket := t.ticket + 1 } [.arrived t.ticket r]).Opened :=
      hput.note rfl (by simp)
    refine hnoted.settle (Server.follows_receive hs.cursor_ge r) fun u hu => ⟨?_, ?_, ?_⟩
    · rw [knows_note]
      simp [Note.mentions, Server.Request.mentions, hu]
    · intro hin
      have hknown := hs.known u (List.mem_append_right _ hin)
      simp [admits, hu, hknown] at hr
    · rintro o ho rfl
      have hold : o ∈ Traffic.openings { t with ticket := t.ticket + 1 } := by
        simpa [openings_note, Note.opening?] using ho
      have hknown := h.known o hold
      simp [admits, hu, hknown] at hr
  | goesOn k p hp => exact h.goesOn hs hp
  | polls k p hk hp =>
    obtain ⟨e, he⟩ := hs.orderly.entry_of_poll hp
    have hstep := hs.orderly.pollStep hs.ring hp he
    have hput : Traffic.Opened { t with server := (t.server.advancePoll k).1 } :=
      h.change rfl (fun _ hq => hq) hstep.steady.epoch fun u hu => hstep.sources hp ▸ hu
    exact hput.note (openings_pollNotes _ _ _ _) fun j id hn =>
      absurd hn (not_mem_pollNotes _ _ _ _ j id)
  | leaves k p hp =>
    have hput : (t.take k).Opened :=
      h.change rfl (fun q hq => (Tickets.mem_without.1 hq).1) rfl fun _ hu => hu
    exact hput.note rfl (by simp)
  | hangsUp k p hk hp =>
    have hput : Traffic.Opened { t with server := t.server.dropPoll k } := by
      rw [Server.dropPoll_eq hp]
      exact h.change rfl (fun _ hq => hq) rfl fun u hu => (Registry.sources_release _ _ _).symm ▸ hu
    exact hput.note rfl (by simp)
  | publishes stamp typeId payload =>
    have hput : Traffic.Opened { t with server := t.server.publish stamp typeId payload } :=
      h.change rfl (fun _ hq => hq) rfl fun _ hu => hu
    exact hput.note rfl (by simp)
  | passes nanos => exact h.change rfl (fun _ hq => hq) rfl fun _ hu => hu

end Opened

/-! ### Sessions that move -/

/-- What the notes say of how sessions were moved. -/
structure Toured (t : Traffic) : Prop where
  nowhere : ∀ u, u ∉ t.server.registry.sources → t.passages u = []
  tiled : ∀ x ∈ t.server.registry.positions, ∃ k start, (k, x.1, start) ∈ t.openings ∧
    Tiles start (t.passages x.1) x.2

/-- A poll that ends without a passage, or does not end, moves nobody. -/
theorem positions_of_stays {s s' : Server} {events : List Event} {p : Poll} {e : Entry}
    {answer : Option (Outcome Batch)} (h : s.PollStep events k p e s' answer)
    (hp : s.poll? k = some p) (hnone : answer.bind e.session.passage? = none) :
    s'.registry.positions = s.registry.positions := by
  cases h with
  | stays | waits => rfl
  | timesOut | refuses =>
    rw [Server.dropPoll_eq hp]
    exact Registry.positions_release _ _ _
  | overflows | consumes => cases hnone

/-- A poll that ends with a passage moves its session to the last event. -/
theorem positions_of_passes {s s' : Server} {events : List Event} {p : Poll} {e : Entry}
    {answer : Option (Outcome Batch)} (h : s.PollStep events k p e s' answer)
    (hp : s.poll? k = some p) {x : Int × Int} (hx : answer.bind e.session.passage? = some x) :
    s'.registry.positions = s.registry.positions.map fun y =>
      if y.1 = p.source then (y.1, s.log.cursor) else y := by
  have hmoved : ∀ {r : Registry}, r.marks = (s.registry.marks.map fun m =>
      if m.source = p.source then { m with last := s.log.cursor } else m) →
      ((s.withRegistry r).dropPoll k).registry.positions =
        s.registry.positions.map fun y => if y.1 = p.source then (y.1, s.log.cursor) else y := by
    intro r hr
    rw [Server.dropPoll_withRegistry hp]
    refine (Registry.positions_release r p.source k).trans ?_
    rw [Registry.positions, hr, Registry.positions, List.map_map, List.map_map]
    refine List.map_congr_left fun m _ => ?_
    simp only [Function.comp]
    split <;> rfl
  cases h with
  | stays | waits | timesOut | refuses => cases hx
  | overflows => exact hmoved (Server.marks_resynced s p.source)
  | consumes => exact hmoved (Server.marks_consumed s p.source)

/-- A poll that moves its session moves it on to the last event. -/
theorem passage_of_pollStep {s s' : Server} {events : List Event} {p : Poll} {e : Entry}
    {answer : Option (Outcome Batch)} (h : s.PollStep events k p e s' answer) {x : Int × Int}
    (hx : answer.bind e.session.passage? = some x) : x = (e.session.lastSequence, s.log.cursor) := by
  cases h with
  | stays | waits => cases hx
  | timesOut | refuses => cases hx
  | overflows | consumes =>
    cases hx
    rfl

/-- The passages that are noted of a poll. -/
theorem passages_pollNotes {s : Server} {p : Poll} {e : Entry}
    (he : s.registry.entry? p.source = some e) (answer : Option (Outcome Batch)) (u : SourceId) :
    (pollNotes s k p answer).filterMap (Note.passage? u) =
      if p.source = u then (answer.bind e.session.passage?).toList else [] := by
  have hturn : (turnNote p e k).filterMap (Note.passage? u) = [] := by
    unfold turnNote
    split <;> rfl
  rw [pollNotes_eq he, List.filterMap_append, hturn, List.nil_append]
  cases answer with
  | none => simp
  | some a =>
    have hpolled : (Note.polled k e.session a).passage? u =
        if p.source = u then e.session.passage? a else none := by
      rw [Note.passage?, Registry.source_of_entry he]
    have hanswered : (Note.answered k (a.map .batch)).passage? u = none := rfl
    rw [List.filterMap_cons, hpolled, List.filterMap_cons, hanswered]
    split <;> cases e.session.passage? a <;> simp_all

namespace Toured

theorem new {config : ServerConfig} {epoch : Epoch} (ht : Traffic.new config epoch = .ok t) :
    t.Toured := by
  obtain ⟨log, -, rfl⟩ := eq_of_new ht
  exact ⟨by simp [passages], by simp [Registry.positions, Registry.marks, Registry.new]⟩

theorem quiet (h : t.Toured) (hs : t.Sound) (ho : t.Opened) (hq : t.Quiet t')
    (hopenings : ∀ o ∈ t.openings, o ∈ t'.openings) : t'.Toured := by
  have hpassages := passages_of_turnNotes hq.turnNotes
  refine ⟨fun u hu => ?_, fun x hx => ?_⟩
  · rw [hpassages]
    refine h.nowhere u fun hin => hu ?_
    rw [← Registry.map_fst_positions] at hin ⊢
    rcases hq.positions with heq | ⟨k, e, -, heq⟩
    · rw [heq]
      exact hin
    · rw [heq, List.map_append]
      exact List.mem_append_left _ hin
  · rw [hpassages]
    have hkeep : x ∈ t.server.registry.positions → ∃ k start, (k, x.1, start) ∈ t'.openings ∧
        Tiles start (t.passages x.1) x.2 := by
      intro hin
      obtain ⟨k, start, hstart, htiles⟩ := h.tiled x hin
      exact ⟨k, start, hopenings _ hstart, htiles⟩
    rcases hq.positions with heq | ⟨k, e, hk, heq⟩
    · exact hkeep (heq ▸ hx)
    · rw [heq] at hx
      rcases List.mem_append.1 hx with hin | hnew
      · exact hkeep hin
      · rw [List.mem_singleton.1 hnew]
        have hmade := ho.made _ (Tickets.mem_of_lookup hk) rfl
        have hfree := (hs.not_mem_reserved_take hk rfl).1
        refine ⟨k, _, hopenings _ hmade, ?_⟩
        rw [h.nowhere _ fun hin => hfree (List.mem_append_left _ hin)]
        exact rfl

/-- A poll that goes on. -/
theorem poll (h : t.Toured) (hs : t.Sound) {p : Poll} (hp : t.server.poll? k = some p) :
    Toured ({ t with server := (t.server.advancePoll k).1 }.note
      (pollNotes t.server k p (t.server.advancePoll k).2)) := by
  obtain ⟨e, he⟩ := hs.orderly.entry_of_poll hp
  have hstep := hs.orderly.pollStep hs.ring hp he
  have hlevel := hs.orderly.level_of_entry he
  have hsource := hs.orderly.homes _ (Server.mem_polls_of_poll? hp)
  have hpassages : ∀ u, _ = _ := fun u =>
    (passages_note { t with server := (t.server.advancePoll k).1 } _ u).trans
      (congrArg (t.passages u ++ ·) (passages_pollNotes (k := k) he (t.server.advancePoll k).2 u))
  have hopenings := openings_note { t with server := (t.server.advancePoll k).1 }
    (pollNotes t.server k p (t.server.advancePoll k).2)
  rw [openings_pollNotes, List.append_nil] at hopenings
  refine ⟨fun u hu => ?_, fun x hx => ?_⟩
  · have hu' : u ∉ t.server.registry.sources := hstep.sources hp ▸ hu
    have hne : p.source ≠ u := fun heq => hu' (heq ▸ hsource)
    rw [hpassages, h.nowhere u hu', if_neg hne, List.nil_append]
  · rw [hpassages, hopenings]
    cases hpass : (t.server.advancePoll k).2.bind e.session.passage? with
    | none =>
      have hin : x ∈ t.server.registry.positions := positions_of_stays hstep hp hpass ▸ hx
      obtain ⟨j, start, hstart, htiles⟩ := h.tiled x hin
      exact ⟨j, start, hstart, by simpa using htiles⟩
    | some y =>
      have hy := passage_of_pollStep hstep hpass
      have hin : x ∈ t.server.registry.positions.map _ := positions_of_passes hstep hp hpass ▸ hx
      obtain ⟨z, hz, rfl⟩ := List.mem_map.1 hin
      obtain ⟨j, start, hstart, htiles⟩ := h.tiled z hz
      by_cases hzs : z.1 = p.source
      · obtain ⟨m, hm, rfl⟩ := List.mem_map.1 hz
        have hmark := Registry.mark_unique hs.orderly.sources hm (Registry.mark_mem_of_entry he)
          (hzs.trans (Registry.source_of_entry he).symm)
        subst hmark
        rw [if_pos hzs, if_pos hzs.symm, hy]
        exact ⟨j, start, hstart, htiles.snoc hlevel.2⟩
      · rw [if_neg hzs]
        exact ⟨j, start, hstart, by simpa [Ne.symm hzs] using htiles⟩

theorem step (h : t.Toured) (hs : t.Sound) (ho : t.Opened) {m : Move} (ht : t.step m = some t') :
    t'.Toured := by
  rcases quiet_of_happens hs (happens_of_step ht) with hquiet | ⟨k, p, -, hk, hp, rfl⟩
  · exact h.quiet hs ho hquiet ((prefix_notes (happens_of_step ht)).filterMap _).subset
  · exact h.poll hs hp

end Toured
end Traffic
end EventRelay
