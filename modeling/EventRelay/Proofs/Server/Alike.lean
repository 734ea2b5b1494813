/-
# Traffic with sweeps and without

Two servers with the same requests under way are compared, of which one has swept more often.  The
sessions that it has ended for that have lapsed on the other (`Registry.Lapsed`), and a request that
looks for one of them may be a pause behind (`Pause.Trails`): it will not find the session, where
the other one finds it idle first and comes to end it then.  `Traffic.Alike` says so of all that is
under way, and that the notes agree.  They may differ in what a sweep counts, and in the answer to a
request to end a session that has lapsed: it is refused where a sweep has ended the session before,
and granted where none has (`Traffic.Late`).

Every move keeps this (`Traffic.Paired.step`), but for one that only lets the other server see that
a session has lapsed (`Traffic.Paired.lags`).
-/

import EventRelay.Proofs.Server.Lifetimes
import EventRelay.Proofs.Server.Locality
import EventRelay.Proofs.Server.Replies
import EventRelay.Proofs.Session.Lapsing

namespace EventRelay

/-- Whether two notes say the same, but for what sweeps count and the answers to requests that are
late. -/
inductive Note.Agrees (late : Nat → Prop) : Note → Note → Prop where
  | same (n : Note) : Agrees late n n
  | swept (k count count' : Nat) :
    Agrees late (.answered k (.ok (.swept count))) (.answered k (.ok (.swept count')))
  | closed (k : Nat) (h : late k) :
    Agrees late (.answered k (.error .invalidSession)) (.answered k (.ok .done))

/-- Whether a request stands where another does, but for the like answers. -/
inductive Standing.Agrees (late : Prop) : Standing → Standing → Prop where
  | same (st : Standing) : Agrees late st st
  | swept (count count' : Nat) :
    Agrees late (.answered (.ok (.swept count))) (.answered (.ok (.swept count')))
  | closed (h : late) : Agrees late (.answered (.error .invalidSession)) (.answered (.ok .done))

namespace Server

variable {s : Server} {r : Registry} {us us' : List SourceId} {u : SourceId} {k : Nat} {aim : Aim}

/-- Whether what becomes of a request agrees on two servers: on the first one the sessions of `us`
had ended, and those of `us'` have ended now, which have only lapsed on the second one. -/
structure Matched (us us' : List SourceId) (late : Prop) (x y : Server × Standing) : Prop where
  server : x.1 = y.1.withRegistry x.1.registry
  lapsed : Registry.Lapsed us' y.1.now x.1.registry y.1.registry
  subset : us' ⊆ us
  standing : Standing.Agrees late x.2 y.2
  lining : ∀ u, y.2 = .paused (.liningUp u) → u ∉ us'

theorem missed_withRegistry (s : Server) (r : Registry) (aim : Aim) :
    (s.withRegistry r).missed aim = s.missed aim := by
  cases aim <;> rfl

/-- Nothing becomes of the sessions. -/
theorem matched_of_keeps {late : Prop} (h : Registry.Lapsed us s.now r s.registry) (st : Standing)
    (hline : ∀ u, st ≠ .paused (.liningUp u)) :
    Matched us us late (s.withRegistry r, st) (s, st) :=
  ⟨rfl, h, List.Subset.refl us, .same st, fun u hu => absurd hu (hline u)⟩

/-- A request finds its session, which has not lapsed. -/
theorem matched_found {late : Prop} (h : Registry.Lapsed us s.now r s.registry) (hu : u ∉ us)
    (aim : Aim) : Matched us us late ((s.withRegistry r).found u aim) (s.found u aim) := by
  have hwants : ∀ t, (s.withRegistry r).registry.wants u t = s.registry.wants u t := fun t => by
    simp only [Registry.wants, withRegistry, h.entry_eq hu]
  cases aim with
  | opening | lookup => exact matched_of_keeps h _ (by simp)
  | poll =>
    refine ⟨rfl, h, List.Subset.refl us, .same _, fun v hv => ?_⟩
    cases hv
    exact hu
  | subscribe t =>
    simp only [found, Registry.addType, hwants t]
    exact ⟨rfl, h.modify hu fun e => Session.source_subscribe e.session t, List.Subset.refl us,
      .same _, by simp⟩
  | unsubscribe t =>
    simp only [found, Registry.removeType, hwants t]
    exact ⟨rfl, h.modify hu fun _ => rfl, List.Subset.refl us, .same _, by simp⟩

/-- A request looks for a session that has not lapsed. -/
theorem matched_seeking {late : Prop} (h : Registry.Lapsed us s.now r s.registry) (hu : u ∉ us)
    (k : Nat) (aim : Aim) : Matched us us late ((s.withRegistry r).proceed k (.seeking u aim))
      (s.proceed k (.seeking u aim)) := by
  have hlive : (s.withRegistry r).registry.live? u = s.registry.live? u := h.live_eq hu
  cases hl : s.registry.live? u with
  | none =>
    rw [proceed_seeking_of_absent hl, proceed_seeking_of_absent (hlive.trans hl),
      missed_withRegistry]
    exact matched_of_keeps h _ (not_lining_missed s aim)
  | some e =>
    have hstale : (s.withRegistry r).registry.isStale s.now e = s.registry.isStale s.now e := by
      simp only [Registry.isStale, withRegistry, h.ttl]
    cases hidle : s.registry.isStale s.now e with
    | true =>
      rw [proceed_seeking_of_idle hl hidle,
        proceed_seeking_of_idle (hlive.trans hl) (hstale.trans hidle)]
      exact matched_of_keeps h _ (by simp)
    | false =>
      rw [proceed_seeking_of_live hl hidle,
        proceed_seeking_of_live (hlive.trans hl) (hstale.trans hidle)]
      exact matched_found (s := s.withRegistry (s.registry.modify u (·.touch s.now)))
        (h.modify hu (f := (·.touch s.now)) fun _ => rfl) hu aim

/-- A request comes to end a session that it has found idle. -/
theorem matched_expiring {late : Prop} (h : Registry.Lapsed us s.now r s.registry)
    (hr : r.Settled) (hs : s.registry.Settled) (hsources : s.registry.sources.Nodup) (u : SourceId)
    (k : Nat) (aim : Aim) : ∃ us', Matched us us' late
      ((s.withRegistry r).proceed k (.expiring u aim)) (s.proceed k (.expiring u aim)) := by
  have hproceed : ∀ s : Server, s.proceed k (.expiring u aim) =
      (s.withRegistry (s.registry.expire s.now u), s.missed aim) := fun _ => rfl
  have hline : ∀ v, s.missed aim ≠ .paused (.liningUp v) := not_lining_missed s aim
  have hnow : (s.withRegistry r).now = s.now := rfl
  have hregistry : (s.withRegistry r).registry = r := rfl
  rw [hproceed, hproceed, missed_withRegistry, hnow, hregistry]
  by_cases hu : u ∈ us
  · -- only where the session has not ended yet is there anything to do
    obtain ⟨e, he, -, hstale⟩ := h.idle u hu
    rw [show r.expire s.now u = r by simp only [Registry.expire, h.live_eq_none hu],
      show s.registry.expire s.now u = (s.registry.retire u (.expired u)).1 by
        simp only [Registry.expire, he, hstale, if_true]]
    exact ⟨_, rfl, h.retire_right hu hs hsources _, List.filter_subset_self _, .same _,
      fun v hv => absurd hv (hline v)⟩
  · refine ⟨us, rfl, ?_, List.Subset.refl us, .same _, fun v hv => absurd hv (hline v)⟩
    simp only [Registry.expire, h.live_eq hu]
    cases hl : s.registry.live? u with
    | none => exact h
    | some e =>
      have hstale : r.isStale s.now e = s.registry.isStale s.now e := by
        simp only [Registry.isStale, h.ttl]
      dsimp only
      rw [hstale]
      cases s.registry.isStale s.now e with
      | true => exact h.retire hu hr hs _
      | false => exact h

/-- A request comes to end a session: it is refused one that has ended, and granted one that has
only lapsed. -/
theorem matched_closing {late : Prop} (h : Registry.Lapsed us s.now r s.registry)
    (hr : r.Settled) (hs : s.registry.Settled) (hsources : s.registry.sources.Nodup)
    (hlate : u ∈ us → late) (k : Nat) : ∃ us', Matched us us' late
      ((s.withRegistry r).proceed k (.closing u)) (s.proceed k (.closing u)) := by
  have hregistry : (s.withRegistry r).registry = r := rfl
  have hends : ∀ {s : Server} {e : Entry}, s.registry.Settled → s.registry.live? u = some e →
      s.proceed k (.closing u) = (s.withRegistry (s.registry.retire u (.invalidated u)).1,
        .answered (.ok .done)) := by
    intro s e hsettled hl
    simp only [proceed, Registry.invalidate, Registry.retire_of_live hsettled hl]
  have hrefused : ∀ {s : Server}, s.registry.live? u = none →
      s.proceed k (.closing u) = (s, .answered (.error .invalidSession)) := by
    intro s hl
    simp only [proceed, Registry.invalidate, Registry.retire_of_not_live hl]
    rfl
  by_cases hu : u ∈ us
  · obtain ⟨e, he, -⟩ := h.idle u hu
    rw [hrefused (h.live_eq_none hu : (s.withRegistry r).registry.live? u = none), hends hs he]
    exact ⟨_, rfl, h.retire_right hu hs hsources _, List.filter_subset_self _, .closed (hlate hu),
      by simp⟩
  · have hlive : (s.withRegistry r).registry.live? u = s.registry.live? u := h.live_eq hu
    cases hl : s.registry.live? u with
    | none =>
      rw [hrefused hl, hrefused (hlive.trans hl)]
      exact ⟨us, matched_of_keeps h _ (by simp)⟩
    | some e =>
      rw [hends hs hl, hends (hregistry.symm ▸ hr) (hlive.trans hl)]
      exact ⟨us, rfl, h.retire hu hr hs _, List.Subset.refl us, .same _, by simp⟩

/-- **A request goes on in the same way**, unless it looks for a session that has lapsed. -/
theorem matched_proceed {late : Prop} (h : Registry.Lapsed us s.now r s.registry)
    (hr : r.Settled) (hrsources : r.sources.Nodup) (hs : s.registry.Settled)
    (hsources : s.registry.sources.Nodup) (k : Nat) {p : Pause}
    (hseeking : ∀ u aim, p = .seeking u aim → u ∉ us) (henlisting : ∀ e, p = .enlisting e →
      e.session.source ∉ us) (hlining : ∀ u, p = .liningUp u → u ∉ us)
    (hlate : ∀ u, p = .closing u → u ∈ us → late) :
    ∃ us', Matched us us' late ((s.withRegistry r).proceed k p) (s.proceed k p) := by
  cases p with
  | seeking u aim => exact ⟨us, matched_seeking h (hseeking u aim rfl) k aim⟩
  | expiring u aim => exact matched_expiring h hr hs hsources u k aim
  | enlisting e =>
    exact ⟨us, rfl, h.enlist (henlisting e rfl), List.Subset.refl us, .same _, by simp [proceed]⟩
  | closing u => exact matched_closing h hr hs hsources (hlate u rfl) k
  | sweeping since =>
    exact ⟨_, rfl, h.sweep hr hs hrsources hsources since, List.filter_subset_self _, .swept _ _,
      by simp [proceed]⟩
  | liningUp u =>
    exact ⟨us, rfl, h.modify (hlining u rfl) fun _ => rfl, List.Subset.refl us, .same _,
      by simp [proceed]⟩

end Server

/-- Where a request stands on two servers: it may be behind on the first one, where the session that
it looks for has ended. -/
inductive Pause.Trails (r : Registry) : Option Pause → Option Pause → Prop where
  | same (p : Option Pause) : Trails r p p
  | behind (u : SourceId) (aim : Aim) (h : r.ToldEnded u) :
    Trails r (some (.seeking u aim)) (some (.expiring u aim))

theorem Pause.Trails.mono {r r' : Registry} {p q : Option Pause} (h : Trails r p q)
    (hsent : r.feed.sent ⊆ r'.feed.sent) : Trails r' p q := by
  cases h with
  | same => exact .same _
  | behind u aim h => exact .behind u aim (h.mono hsent)

theorem Note.Agrees.mono {late late' : Nat → Prop} {a b : Note}
    (h : Note.Agrees late a b) (hlate : ∀ k, late k → late' k) : Note.Agrees late' a b := by
  cases h with
  | same => exact .same _
  | swept => exact .swept _ _ _
  | closed k h => exact .closed k (hlate k h)

theorem Note.Agrees.mentions {late : Nat → Prop} {a b : Note} (h : Note.Agrees late a b)
    (u : SourceId) : a.mentions u = b.mentions u := by
  cases h <;> rfl

/-- How the notes of what a request was answered compare. -/
theorem Note.Agrees.answer {late : Nat → Prop} {a b : Note} (h : Note.Agrees late a b) (k : Nat) :
    a.answer? k = b.answer? k ∨ (∃ count, b = .answered k (.ok (.swept count))) ∨
      late k ∧ a.answer? k = some (.error .invalidSession) ∧ b.answer? k = some (.ok .done) := by
  cases h with
  | same => exact .inl rfl
  | swept j count count' =>
    by_cases hj : j = k
    · exact .inr (.inl ⟨count', by rw [hj]⟩)
    · exact .inl (by simp [Note.answer?, hj])
  | closed j hlate =>
    by_cases hj : j = k
    · subst hj
      exact .inr (.inr ⟨hlate, by simp [Note.answer?], by simp [Note.answer?]⟩)
    · exact .inl (by simp [Note.answer?, hj])

namespace Traffic

variable {x y x' y' : Traffic} {us us' : List SourceId} {k : Nat} {p : Pause} {m : Move}

/-- Whether a ticket is of a request to end a session that has expired on the first server and is
ended by that request on the second one. -/
def Late (x y : Traffic) (k : Nat) : Prop :=
  ∃ id, (k, .closeSession (some id)) ∈ y.arrivals ∧
    .expired id.source ∈ x.server.registry.feed.sent ∧
    .invalidated id.source ∈ y.server.registry.feed.sent

/-- Whether all is the same on two servers, but for sessions that have ended on the first one and
have only lapsed on the second. -/
structure Alike (us : List SourceId) (x y : Traffic) : Prop where
  server : x.server = y.server.withRegistry x.server.registry
  lapsed : Registry.Lapsed us y.server.now x.server.registry y.server.registry
  expired : ∀ u ∈ us, .expired u ∈ x.server.registry.feed.sent
  ticket : x.ticket = y.ticket
  paused : ∀ k, Pause.Trails x.server.registry (x.paused.lookup k) (y.paused.lookup k)
  lining : ∀ k u, y.paused.lookup k = some (.liningUp u) → u ∉ us
  notes : List.Forall₂ (fun a b => a.1 = b.1 ∧ Note.Agrees (Late x y) a.2 b.2) x.notes y.notes

theorem Late.mono (h : Late x y k) (harrivals : y.arrivals ⊆ y'.arrivals)
    (hx : x.server.registry.feed.sent ⊆ x'.server.registry.feed.sent)
    (hy : y.server.registry.feed.sent ⊆ y'.server.registry.feed.sent) : Late x' y' k := by
  obtain ⟨id, hk, hexpired, hinvalidated⟩ := h
  exact ⟨id, harrivals hk, hx hexpired, hy hinvalidated⟩

namespace Alike

theorem refl (x : Traffic) : Alike [] x x where
  server := rfl
  lapsed := .refl _ _
  expired _ hu := absurd hu List.not_mem_nil
  ticket := rfl
  paused _ := .same _
  lining _ _ _ := List.not_mem_nil
  notes := List.forall₂_same.2 fun _ _ => ⟨rfl, .same _⟩

theorem now_eq (h : Alike us x y) : x.server.now = y.server.now := by
  rw [h.server]
  rfl

theorem log_eq (h : Alike us x y) : x.server.log = y.server.log := by
  rw [h.server]
  rfl

theorem poll_eq (h : Alike us x y) (k : Nat) : x.server.poll? k = y.server.poll? k := by
  rw [h.server]
  rfl

/-- The servers change, and the listeners are told what they were and more. -/
theorem change (h : Alike us x y) {sx sy : Server} (hserver : sx = sy.withRegistry sx.registry)
    (hlapsed : Registry.Lapsed us' sy.now sx.registry sy.registry) (hus : us' ⊆ us)
    (hx : x.server.registry.feed.sent ⊆ sx.registry.feed.sent)
    (hy : y.server.registry.feed.sent ⊆ sy.registry.feed.sent) :
    Alike us' { x with server := sx } { y with server := sy } where
  server := hserver
  lapsed := hlapsed
  expired u hu := hx (h.expired u (hus hu))
  ticket := h.ticket
  paused k := (h.paused k).mono hx
  lining k u hp hu := h.lining k u hp (hus hu)
  notes := h.notes.imp fun _ _ hab =>
    ⟨hab.1, hab.2.mono fun _ hlate => hlate.mono (List.Subset.refl _) hx hy⟩

/-- Notes are taken. -/
theorem note (h : Alike us x y) {ns ns' : List Note}
    (hns : List.Forall₂ (Note.Agrees (Late (x.note ns) (y.note ns'))) ns ns') :
    Alike us (x.note ns) (y.note ns') where
  server := h.server
  lapsed := h.lapsed
  expired := h.expired
  ticket := h.ticket
  paused := h.paused
  lining := h.lining
  notes := by
    have harrivals : y.arrivals ⊆ (y.note ns').arrivals := by
      rw [arrivals_note]
      exact List.subset_append_left _ _
    refine List.rel_append (h.notes.imp fun a b hab => ⟨hab.1, hab.2.mono fun _ hlate =>
      hlate.mono harrivals (List.Subset.refl _) (List.Subset.refl _)⟩) ?_
    rw [List.forall₂_map_left_iff, List.forall₂_map_right_iff]
    exact hns.imp fun a b hab => ⟨h.now_eq, hab⟩

/-- The same notes are taken. -/
theorem note_same (h : Alike us x y) (ns : List Note) : Alike us (x.note ns) (y.note ns) :=
  h.note (List.forall₂_same.2 fun _ _ => .same _)

/-- A request is taken from where it stood. -/
theorem take (h : Alike us x y) (k : Nat) : Alike us (x.take k) (y.take k) where
  server := h.server
  lapsed := h.lapsed
  expired := h.expired
  ticket := h.ticket
  paused j := by
    simp only [Traffic.take, Tickets.lookup_filter]
    split
    · exact .same none
    · exact h.paused j
  lining j u hp := by
    simp only [Traffic.take, Tickets.lookup_filter] at hp
    split at hp
    · cases hp
    · exact h.lining j u hp
  notes := h.notes

/-- A request is put where it now stands. -/
theorem settle (h : Alike us x y) {st st' : Standing} (hst : Standing.Agrees (Late x y k) st st')
    (hx : x.paused.lookup k = none) (hy : y.paused.lookup k = none)
    (hlining : ∀ u, st' = .paused (.liningUp u) → u ∉ us) :
    Alike us (x.settle k st) (y.settle k st') := by
  cases hst with
  | same =>
    cases st with
    | inLine => exact h
    | answered answer => exact h.note_same _
    | paused p =>
      have hstop : x.stopNotes k p = y.stopNotes k p := by
        cases p <;> simp only [stopNotes, h.log_eq]
      have hput : Alike us { x with paused := x.paused ++ [(k, p)] }
          { y with paused := y.paused ++ [(k, p)] } :=
        { h with
          paused := fun j => by
            rw [Tickets.lookup_concat hx, Tickets.lookup_concat hy]
            split
            · exact .same _
            · exact h.paused j
          lining := fun j u hp => by
            rw [Tickets.lookup_concat hy] at hp
            split at hp
            · exact hlining u (congrArg _ (Option.some.inj hp))
            · exact h.lining j u hp }
      rw [Traffic.settle, Traffic.settle, hstop]
      exact hput.note_same _
  | swept count count' => exact h.note (.cons (.swept k count count') .nil)
  | closed hlate =>
    refine h.note (.cons (.closed k (hlate.mono ?_ (List.Subset.refl _) (List.Subset.refl _))) .nil)
    rw [arrivals_note]
    exact List.subset_append_left _ _

end Alike

/-- Two servers that are alike, with what holds of each. -/
structure Paired (ttl : Duration) (us : List SourceId) (x y : Traffic) : Prop extends
    Alike us x y where
  left : Regular ttl x
  right : Regular ttl y

namespace Paired

variable {ttl : Duration} {u : SourceId} {aim : Aim}

theorem mem_sources (h : Paired ttl us x y) (hu : u ∈ us) : u ∈ y.server.registry.sources := by
  obtain ⟨e, he, -⟩ := h.lapsed.idle u hu
  exact Registry.entry_isSome_iff.1 (by rw [(Registry.live?_eq_some_iff.1 he).1]; rfl)

/-- What the listeners are told when a request goes on comes after what they were told. -/
theorem sent_subset_proceed {t : Traffic} (h : t.Sound) (k : Nat) (p : Pause) :
    t.server.registry.feed.sent ⊆ (t.server.proceed k p).1.registry.feed.sent := by
  rw [(Server.tells_proceed h.settled h.orderly.sources k p).sent]
  exact List.subset_append_left _ _

/-- A request to end a session that has lapsed is late. -/
theorem late_of_closing (h : Paired ttl us x y) (hy : y.paused.lookup k = some (.closing u))
    (hu : u ∈ us) : Late { x.take k with server := (x.server.proceed k (.closing u)).1 }
      { y.take k with server := (y.server.proceed k (.closing u)).1 } k := by
  obtain ⟨r, hr, hnames, hclose⟩ := h.right.traced.paused _ (Tickets.mem_of_lookup hy)
  obtain ⟨id, hid, rfl⟩ := Option.map_eq_some_iff.1 hnames
  obtain ⟨e, he, -⟩ := h.lapsed.idle _ hu
  rw [hid] at hclose
  refine ⟨id, hclose ▸ hr, sent_subset_proceed h.left.toSound k _ (h.expired _ hu), ?_⟩
  rw [(Server.tells_proceed h.right.settled h.right.orderly.sources k (.closing id.source)).sent]
  exact List.mem_append_right _ (by simp [Pause.news, he])

/-- A request goes on from where it stands on the second server. -/
theorem next (h : Paired ttl us x y) (hy : y.paused.lookup k = some p)
    (hseeking : ∀ u aim, p = .seeking u aim → u ∉ us) :
    ∃ us', Alike us' (x.next k p) (y.next k p) := by
  have hlate : ∀ u, p = .closing u → u ∈ us →
      Late { x.take k with server := (x.server.proceed k p).1 }
        { y.take k with server := (y.server.proceed k p).1 } k := by
    rintro u rfl hu
    exact h.late_of_closing hy hu
  obtain ⟨us', hmatched⟩ := Server.matched_proceed h.lapsed h.left.settled
    h.left.orderly.sources h.right.settled h.right.orderly.sources k hseeking
    (fun e hp hu => (h.right.not_mem_reserved_take hy (by rw [hp]; rfl)).1
      (List.mem_append_left _ (h.mem_sources hu)))
    (fun u hp => h.lining k u (hp ▸ hy)) hlate
  rw [← h.server] at hmatched
  have hchanged := (h.toAlike.take k).change hmatched.server hmatched.lapsed hmatched.subset
    (sent_subset_proceed h.left.toSound k p) (sent_subset_proceed h.right.toSound k p)
  have hnone : ∀ t : Traffic, (t.take k).paused.lookup k = none := fun t => by
    rw [Traffic.take, Tickets.lookup_filter, if_pos rfl]
  exact ⟨us', hchanged.settle hmatched.standing (hnone x) (hnone y) hmatched.lining⟩

/-- A request that is behind does at once what takes the other one two pauses. -/
theorem next_of_behind (h : Paired ttl us x y) (hgone : x.server.registry.ToldEnded u) (k : Nat)
    (aim : Aim) : x.next k (.seeking u aim) = x.next k (.expiring u aim) := by
  have hnone := hgone.live_eq_none h.left.chronicled
  have hexpiring : x.server.proceed k (.expiring u aim) = (x.server, x.server.missed aim) := by
    simp only [Server.proceed, Registry.expire, hnone]
    rfl
  rw [Traffic.next, Traffic.next, hexpiring, Server.proceed_seeking_of_absent hnone]

/-- Nobody polls on a session that has lapsed. -/
theorem not_lapsed (h : Paired ttl us x y) {q : Poll} (hq : y.server.poll? k = some q) :
    q.source ∉ us := by
  intro hu
  obtain ⟨e, he, hqueue, -⟩ := h.lapsed.idle _ hu
  have hentry := (Registry.live?_eq_some_iff.1 he).1
  have hk : k ∈ e.mark.queue := by
    rw [h.right.orderly.queues _ (Registry.mark_mem_of_entry hentry), Entry.mark_source,
      Registry.source_of_entry hentry]
    exact Server.mem_line.2 ⟨q, Server.mem_polls_of_poll? hq, rfl⟩
  rw [Entry.mark_queue, hqueue] at hk
  cases hk

/-- A poll goes on. -/
theorem polls (h : Paired ttl us x y) {q : Poll} (hq : y.server.poll? k = some q) :
    Alike us ({ x with server := (x.server.advancePoll k).1 }.note
        (pollNotes x.server k q (x.server.advancePoll k).2))
      ({ y with server := (y.server.advancePoll k).1 }.note
        (pollNotes y.server k q (y.server.advancePoll k).2)) := by
  obtain ⟨e, he⟩ := h.right.orderly.entry_of_poll hq
  have hu := h.not_lapsed hq
  have hx := h.lapsed.entry_eq hu
  obtain ⟨f, polls, answer, hf, hact⟩ := Server.advancePoll_eq hq e
  have hgoes : y.server.advancePoll k = _ := hact y.server.registry he
  have hgoes' : x.server.advancePoll k =
      ({ y.server with polls, registry := x.server.registry.modify q.source f }, answer) := by
    rw [h.server]
    exact hact x.server.registry (hx.trans he)
  have hnotes : pollNotes x.server k q answer = pollNotes y.server k q answer := by
    simp only [pollNotes, hx]
  rw [hgoes, hgoes', hnotes]
  have hchanged : Alike us
      { x with server := { y.server with polls, registry := x.server.registry.modify q.source f } }
      { y with server :=
        { y.server with polls, registry := y.server.registry.modify q.source f } } :=
    h.toAlike.change rfl (h.lapsed.modify hu hf) (List.Subset.refl us) (List.Subset.refl _)
      (List.Subset.refl _)
  exact hchanged.note_same _

/-- A poll is given up. -/
theorem hangsUp (h : Paired ttl us x y) {q : Poll} (hq : y.server.poll? k = some q) :
    Alike us ({ x with server := x.server.dropPoll k }.note [.aborted k])
      ({ y with server := y.server.dropPoll k }.note [.aborted k]) := by
  have hdrop : x.server.dropPoll k = (y.server.withRegistry x.server.registry).dropPoll k := by
    rw [← h.server]
  have hlapsed : Registry.Lapsed us y.server.now (x.server.registry.release q.source k)
      (y.server.registry.release q.source k) := h.lapsed.modify (h.not_lapsed hq) fun _ => rfl
  rw [hdrop, Server.dropPoll_withRegistry hq, Server.dropPoll_eq hq]
  refine Alike.note_same (h.toAlike.change ?_ ?_ (List.Subset.refl us) ?_ ?_) _
  · rfl
  · exact hlapsed
  · exact List.Subset.refl _
  · exact List.Subset.refl _

/-- A request can arrive on both servers or on neither. -/
theorem admits_eq (h : Paired ttl us x y) (r : Server.Request) : x.admits r = y.admits r := by
  have hknows : ∀ u, x.knows u = y.knows u := by
    intro u
    have hnotes := h.notes
    simp only [knows]
    generalize x.notes = ns, y.notes = ns' at hnotes
    induction hnotes with
    | nil => rfl
    | cons hab _ ih => rw [List.any_cons, List.any_cons, ih, hab.2.mentions u]
  simp only [admits, hknows]

/-- A request arrives. -/
theorem arrives (h : Paired ttl us x y) (r : Server.Request) :
    Alike us (x.arrive r) (y.arrive r) := by
  have hreceive : x.server.receive r = y.server.receive r := by
    rw [h.server]
    rfl
  have hticket : Alike us { x with ticket := y.ticket + 1 } { y with ticket := y.ticket + 1 } :=
    { h.toAlike with ticket := rfl }
  have hxfree : x.paused.lookup y.ticket = none := h.ticket ▸ h.left.lookup_ticket
  rw [arrive, arrive, hreceive, h.ticket]
  exact (hticket.note_same [.arrived y.ticket r]).settle (.same _) hxfree h.right.lookup_ticket
    fun u hu => absurd hu (Server.not_lining_receive _ r u)

/-! ### Moves -/

/-- Whether a move only lets the second server see that a session has lapsed. -/
def Lags (us : List SourceId) (y : Traffic) (m : Move) : Prop :=
  ∃ k u aim, m = .resume k ∧ y.paused.lookup k = some (.seeking u aim) ∧ u ∈ us

/-- What has happened on both servers keeps them paired. -/
theorem of_step (h : Paired ttl us x y) (hx : x.step m = some x') (hy : y.step m = some y')
    (halike : Alike us' x' y') : Paired ttl us' x' y' :=
  { halike with
    left := h.left.step hx
    right := h.right.step hy }

/-- A request goes on, or a poll. -/
theorem resumes (h : Paired ttl us x y) (hm : ¬ Lags us y (.resume k)) :
    Option.Rel (fun x' y' => ∃ us', Alike us' x' y') (x.step (.resume k)) (y.step (.resume k)) := by
  have htrails := h.paused k
  generalize hx : x.paused.lookup k = px, hy : y.paused.lookup k = py at htrails
  cases htrails with
  | behind u aim hgone =>
    rw [resume_of_paused hx, resume_of_paused hy, h.next_of_behind hgone]
    exact .some (h.next hy (by simp))
  | same =>
    cases px with
    | some p =>
      rw [resume_of_paused hx, resume_of_paused hy]
      exact .some (h.next hy fun u aim hp hu => hm ⟨k, u, aim, rfl, hp ▸ hy, hu⟩)
    | none =>
      simp only [Traffic.step, resume, hx, hy, h.poll_eq]
      cases hq : y.server.poll? k with
      | none => exact .none
      | some q => exact .some ⟨us, h.polls hq⟩

/-- A request is given up, or a poll. -/
theorem aborts (h : Paired ttl us x y) (k : Nat) :
    Option.Rel (fun x' y' => ∃ us', Alike us' x' y') (x.step (.abort k)) (y.step (.abort k)) := by
  have htrails := h.paused k
  generalize hx : x.paused.lookup k = px, hy : y.paused.lookup k = py at htrails
  have hleaves : Alike us ((x.take k).note [.aborted k]) ((y.take k).note [.aborted k]) :=
    (h.toAlike.take k).note_same _
  cases htrails with
  | behind u aim hgone =>
    simp only [Traffic.step, abort, hx, hy]
    exact .some ⟨us, hleaves⟩
  | same =>
    cases px with
    | some p =>
      simp only [Traffic.step, abort, hx, hy]
      exact .some ⟨us, hleaves⟩
    | none =>
      simp only [Traffic.step, abort, hx, hy, h.poll_eq]
      cases hq : y.server.poll? k with
      | none => exact .none
      | some q => exact .some ⟨us, h.hangsUp hq⟩

/-- An event is published. -/
theorem publishes (h : Paired ttl us x y) (stamp : Stamp) (typeId : TypeId)
    (payload : Json.Value) :
    Alike us ({ x with server := x.server.publish stamp typeId payload }.note
        [.published (x.server.log.nextEvent stamp typeId payload)])
      ({ y with server := y.server.publish stamp typeId payload }.note
        [.published (y.server.log.nextEvent stamp typeId payload)]) := by
  have hpublish : x.server.publish stamp typeId payload =
      (y.server.publish stamp typeId payload).withRegistry x.server.registry := by
    rw [h.server]
    rfl
  rw [h.log_eq, hpublish]
  refine Alike.note_same (h.toAlike.change rfl ?_ (List.Subset.refl us) ?_ ?_) _
  · exact h.lapsed
  · exact List.Subset.refl _
  · exact List.Subset.refl _

/-- Time passes. -/
theorem passes (h : Paired ttl us x y) (nanos : Nat) :
    Alike us { x with server := { x.server with now := x.server.now + nanos } }
      { y with server := { y.server with now := y.server.now + nanos } } := by
  have hpass : { x.server with now := x.server.now + nanos } =
      { y.server with now := y.server.now + nanos }.withRegistry x.server.registry := by
    rw [h.server]
    rfl
  rw [hpass]
  exact h.toAlike.change rfl (h.lapsed.later (Nat.le_add_right _ _)) (List.Subset.refl us)
    (List.Subset.refl _) (List.Subset.refl _)

/-- **A move does the same on both servers.** -/
theorem step (h : Paired ttl us x y) (hm : ¬ Lags us y m) :
    Option.Rel (fun x' y' => ∃ us', Paired ttl us' x' y') (x.step m) (y.step m) := by
  have halike : Option.Rel (fun x' y' => ∃ us', Alike us' x' y') (x.step m) (y.step m) := by
    cases m with
    | arrive r =>
      simp only [Traffic.step, h.admits_eq r]
      split
      · exact .some ⟨us, h.arrives r⟩
      · exact .none
    | resume k => exact h.resumes hm
    | abort k => exact h.aborts k
    | publish stamp typeId payload => exact .some ⟨us, h.publishes stamp typeId payload⟩
    | pass nanos => exact .some ⟨us, h.passes nanos⟩
  generalize hx : x.step m = x', hy : y.step m = y' at halike ⊢
  cases halike with
  | none => exact .none
  | some hus =>
    obtain ⟨us', hus⟩ := hus
    exact .some ⟨us', h.of_step hx hy hus⟩

/-- **The second server sees that a session has lapsed**; on the first one it has ended. -/
theorem lags (h : Paired ttl us x y) (hm : Lags us y m) :
    ∃ y', y.step m = some y' ∧ Paired ttl us x y' ∧ ¬ Lags us y' m := by
  obtain ⟨k, u, aim, rfl, hy, hu⟩ := hm
  obtain ⟨e, he, -, hstale⟩ := h.lapsed.idle u hu
  let y' : Traffic := { y with paused := (y.take k).paused ++ [(k, .expiring u aim)] }
  have hstep : y.step (.resume k) = some y' := by
    rw [resume_of_paused hy, Traffic.next, Server.proceed_seeking_of_idle he hstale]
    simp only [settle, note, stopNotes, List.map_nil, List.append_nil]
    rfl
  have hlookup : ∀ j, y'.paused.lookup j =
      if j = k then some (.expiring u aim) else y.paused.lookup j := by
    intro j
    have htaken : ∀ j, (y.take k).paused.lookup j = if j = k then none else y.paused.lookup j :=
      Tickets.lookup_filter y.paused k
    rw [Tickets.lookup_concat ((htaken k).trans (if_pos rfl)), htaken]
    split <;> rfl
  have hx : x.paused.lookup k = some (.seeking u aim) := by
    have htrails := h.paused k
    rw [hy] at htrails
    generalize x.paused.lookup k = px at htrails
    cases htrails
    rfl
  have htrails : ∀ j, Pause.Trails x.server.registry (x.paused.lookup j) (y'.paused.lookup j) := by
    intro j
    rw [hlookup]
    split
    · rename_i hj
      subst hj
      rw [hx]
      exact .behind u aim ⟨_, h.expired u hu, rfl, rfl⟩
    · exact h.paused j
  have hlining : ∀ j v, y'.paused.lookup j = some (.liningUp v) → v ∉ us := by
    intro j v hp
    rw [hlookup] at hp
    split at hp
    · cases hp
    · exact h.lining j v hp
  refine ⟨y', hstep, ?_, ?_⟩
  · exact {
      server := h.server
      lapsed := h.lapsed
      expired := h.expired
      ticket := h.ticket
      paused := htrails
      lining := hlining
      notes := h.notes
      left := h.left
      right := h.right.step hstep }
  · rintro ⟨k', v, aim', hk, hseeking, -⟩
    cases hk
    rw [hlookup, if_pos rfl] at hseeking
    cases hseeking

end Paired

end Traffic
end EventRelay
