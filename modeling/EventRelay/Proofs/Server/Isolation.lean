/-
# Sessions are isolated

A run is compared with what is left of it without the requests of other sessions (`Traffic.alone`).
All that a client sees of its session is the same in both (`Traffic.isolated`): what its requests are
answered, and at which instant, and how the session stands, whether it is listed, what it wants, and
when it was last used.

Move by move, the two runs keep step (`Traffic.Mirrors.step`).  A request that stays stands where it
does in the whole run, but for the one that opens the session: it may have found another session idle
in the whole run, and then is about to end that, where in the other run it has still to look for it
(`Pause.Awaits`).  It will not find it: only those who present the id of the session, or open it, open
any in the other run, and whoever opens the session names none of theirs
(`Traffic.Mirrors.apart`).
-/

import EventRelay.Proofs.Server.Alone

namespace EventRelay

/-- How the place of a request compares: it is the same, or the request opens a session and has found
another one idle, where it has still to look for that. -/
inductive Pause.Awaits (u : SourceId) : Option Pause → Option Pause → Prop where
  | same (p : Option Pause) : Awaits u p p
  | behind (v : SourceId) :
    Awaits u (some (.expiring v (.opening u))) (some (.seeking v (.opening u)))

namespace Traffic

variable {x y x₁ y₁ t₀ : Traffic} {config : ServerConfig} {epoch : Epoch} {id : SessionId}
  {m m' : Move} {ms : List Move} {j k : Nat} {u v : SourceId} {r : Server.Request} {p p' : Pause}

/-- Whether a run without the requests of other sessions is the whole one for a session: in
requests, answers and their instants, log and clock, and the session itself. -/
structure Unaffected (id : SessionId) (x y : Traffic) : Prop where
  requests : y.arrivals = (x.staying id).map fun q => (x.place id q.1, q.2)
  answers : ∀ q ∈ x.staying id, q.2 ≠ .sweep → ∀ instant a,
    (instant, .answered q.1 a) ∈ x.notes ↔ (instant, .answered (x.place id q.1) a) ∈ y.notes
  server : x.server.Shares (x.place id) id.source y.server

/-- What holds of a run and of what is left of it, as long as both go on. -/
structure Mirrors (id : SessionId) (x y : Traffic) : Prop extends Unaffected id x y where
  left : x.Tracked
  right : y.Tracked
  epoch : x.server.epoch = id.epoch
  paused : ∀ k ∈ x.own id,
    Pause.Awaits id.source (x.paused.lookup k) (y.paused.lookup (x.place id k))
  polls : ∀ k ∈ x.own id, y.server.poll? (x.place id k) = x.server.poll? k
  /-- Nobody opens a session that who opens this one names. -/
  apart : ∀ {j k r r' v}, (j, r) ∈ y.arrivals → r.fresh? = some id.source → r.Names v →
    (k, r') ∈ y.arrivals → r'.fresh? ≠ some v

namespace Mirrors

theorem new (hnew : Traffic.new config id.epoch = .ok t₀) : Mirrors id t₀ t₀ := by
  have htracked := Tracked.new hnew
  obtain ⟨log, -, rfl⟩ := eq_of_new hnew
  exact {
    requests := rfl
    answers := by simp [staying, arrivals, told]
    server := ⟨rfl, rfl, rfl, rfl, rfl, rfl⟩
    left := htracked
    right := htracked
    epoch := rfl
    paused := by simp [own, staying, arrivals, told]
    polls := by simp [own, staying, arrivals, told]
    apart := by simp [arrivals, told] }

/-! ### The tickets -/

theorem arrived (h : Mirrors id x y) (hr : (k, r) ∈ x.staying id) :
    (x.place id k, r) ∈ y.arrivals := by
  rw [h.requests]
  exact List.mem_map.2 ⟨(k, r), hr, rfl⟩

theorem stays (h : Mirrors id x y) (hr : (k, r) ∈ y.arrivals) : r.Stays id := by
  rw [h.requests] at hr
  obtain ⟨q, hq, heq⟩ := List.mem_map.1 hr
  cases heq
  exact (mem_staying.1 hq).2

theorem ticket_eq (h : Mirrors id x y) : y.ticket = (x.own id).length := by
  have hnumbered := congrArg List.length h.right.traced.numbered
  rw [List.length_map, List.length_range, h.requests, List.length_map] at hnumbered
  rw [← hnumbered, own, List.length_map]

theorem lt_ticket (h : Mirrors id x y) (hk : k ∈ x.own id) :
    k < x.ticket ∧ x.place id k < y.ticket := by
  obtain ⟨⟨k, r⟩, hr, rfl⟩ := List.mem_map.1 hk
  exact ⟨h.left.lt_ticket hk, h.right.traced.lt_of_mem (h.arrived hr)⟩

/-- Who is known in what is left is known in the whole run. -/
theorem known (h : Mirrors id x y) (hu : y.knows u = true) : x.knows u = true := by
  obtain ⟨k, r, hr, hnamed⟩ := named_of_knows hu
  rw [h.requests] at hr
  obtain ⟨q, hq, heq⟩ := List.mem_map.1 hr
  cases heq
  exact knows_of_names (mem_staying.1 hq).1 hnamed

/-! ### Moves that bring no request that stays -/

/-- Both go on to where the session is the same again, and the places of its requests compare. -/
theorem keep (h : Mirrors id x y) (hx : x.step m = some x₁) (hright : y₁.Tracked)
    (hstaying : x₁.staying id = x.staying id) (harrivals : y₁.arrivals = y.arrivals)
    (hserver : x₁.server.Shares (x.place id) id.source y₁.server)
    (hplaces : ∀ k ∈ x.own id,
      Pause.Awaits id.source (x₁.paused.lookup k) (y₁.paused.lookup (x.place id k)) ∧
        y₁.server.poll? (x.place id k) = x₁.server.poll? k)
    (hanswers : ∀ q ∈ x.staying id, q.2 ≠ .sweep → ∀ instant a,
      (instant, .answered q.1 a) ∈ x₁.notes ↔
        (instant, .answered (x.place id q.1) a) ∈ y₁.notes) : Mirrors id x₁ y₁ := by
  have hown : x₁.own id = x.own id := by
    rw [own, hstaying]
    rfl
  have hplace : x₁.place id = x.place id := by
    rw [place, hown]
    rfl
  exact {
    requests := by
      rw [hstaying, hplace, harrivals]
      exact h.requests
    answers := by
      rw [hstaying, hplace]
      exact hanswers
    server := hplace ▸ hserver
    left := h.left.step hx
    right := hright
    epoch := (h.left.sound.settings_step hx).2.trans h.epoch
    paused := fun k hk => hplace ▸ (hplaces k (hown ▸ hk)).1
    polls := fun k hk => hplace ▸ (hplaces k (hown ▸ hk)).2
    apart := fun hr hfresh hv hr' =>
      h.apart (harrivals ▸ hr) hfresh hv (harrivals ▸ hr') }

/-- A move is left out. -/
theorem drops (h : Mirrors id x y) (hx : x.step m = some x₁)
    (hstaying : x₁.staying id = x.staying id) (hspares : x.server.Spares id.source x₁.server)
    (hplaces : ∀ k ∈ x.own id,
      Pause.Awaits id.source (x₁.paused.lookup k) (y.paused.lookup (x.place id k)) ∧
        x₁.server.poll? k = x.server.poll? k)
    (hanswers : ∀ k ∈ x.own id, ∀ a, ¬ x.Answers m k a) : Mirrors id x₁ y := by
  refine h.keep hx h.right hstaying rfl (h.server.of_spares hspares (.refl _ _))
    (fun k hk => ⟨(hplaces k hk).1, (h.polls k hk).trans (hplaces k hk).2.symm⟩)
    fun q hq hsweep instant a => ?_
  rw [answered_step_iff h.left.sound hx, ← h.answers q hq hsweep]
  exact or_iff_left fun ha => hanswers q.1 (List.mem_map_of_mem hq) a ha.2

/-- **Other requests go by.** -/
theorem drops_others (h : Mirrors id x y) (hx : x.step m = some x₁)
    (harrive : ∀ r, m = .arrive r → ¬ r.Stays id) (hresume : ∀ k, m = .resume k → k ∉ x.own id)
    (habort : ∀ k, m = .abort k → k ∉ x.own id)
    (hpublish : ∀ stamp typeId payload, m ≠ .publish stamp typeId payload)
    (hpass : ∀ nanos, m ≠ .pass nanos) : Mirrors id x₁ y := by
  refine h.drops hx ?_ (h.left.spares_of_others h.epoch hx hresume habort hpublish hpass)
    (fun k hk => ?_) fun k hk a ha => ?_
  · by_cases hm : ∃ r, m = .arrive r
    · obtain ⟨r, rfl⟩ := hm
      rw [staying_arrive h.left.sound hx, if_neg (harrive r rfl), List.append_nil]
    · rw [staying, arrivals_step_of_ne h.left.sound hx fun r hr => hm ⟨r, hr⟩]
      rfl
  · obtain ⟨hpaused, hpoll⟩ := places_step h.left.sound hx (Nat.ne_of_lt (h.lt_ticket hk).1)
      (fun hm => hresume k hm hk) fun hm => habort k hm hk
    exact ⟨hpaused ▸ h.paused k hk, hpoll⟩
  · rcases ha.who with ⟨r, rfl, rfl⟩ | rfl
    · exact Nat.lt_irrefl _ (h.lt_ticket hk).1
    · exact hresume k rfl hk

/-- Both make a move. -/
theorem follows (h : Mirrors id x y) (hx : x.step m = some x₁) (hy : y.step m' = some y₁)
    (hm : ∀ r, m ≠ .arrive r) (hm' : ∀ r, m' ≠ .arrive r)
    (hserver : x₁.server.Shares (x.place id) id.source y₁.server)
    (hplaces : ∀ k ∈ x.own id,
      Pause.Awaits id.source (x₁.paused.lookup k) (y₁.paused.lookup (x.place id k)) ∧
        y₁.server.poll? (x.place id k) = x₁.server.poll? k)
    (hanswers : ∀ q ∈ x.staying id, q.2 ≠ .sweep → ∀ a,
      x.Answers m q.1 a ↔ y.Answers m' (x.place id q.1) a) : Mirrors id x₁ y₁ := by
  refine h.keep hx (h.right.step hy) ?_ (arrivals_step_of_ne h.right.sound hy hm') hserver hplaces
    fun q hq hsweep instant a => ?_
  · rw [staying, arrivals_step_of_ne h.left.sound hx hm]
    rfl
  · rw [answered_step_iff h.left.sound hx, answered_step_iff h.right.sound hy,
      h.answers q hq hsweep, h.server.now, hanswers q hq hsweep]

/-- A request that stays goes on, or is given up, in both. -/
theorem follows_one (h : Mirrors id x y) (hk : k ∈ x.own id) (hx : x.step m = some x₁)
    (hy : y.step m' = some y₁) (hm : m = .resume k ∧ m' = .resume (x.place id k) ∨
      m = .abort k ∧ m' = .abort (x.place id k))
    (hserver : x₁.server.Shares (x.place id) id.source y₁.server)
    (hpaused : Pause.Awaits id.source (x₁.paused.lookup k) (y₁.paused.lookup (x.place id k)))
    (hpoll : y₁.server.poll? (x.place id k) = x₁.server.poll? k)
    (hanswers : (k, .sweep) ∉ x.arrivals → ∀ a,
      x.Answers m k a ↔ y.Answers m' (x.place id k) a) : Mirrors id x₁ y₁ := by
  have hmoves : (∀ r, m ≠ .arrive r) ∧ (∀ r, m' ≠ .arrive r) ∧
      (∀ {i}, i ≠ k → m ≠ .resume i ∧ m ≠ .abort i) ∧
      (∀ {i}, i ≠ x.place id k → m' ≠ .resume i ∧ m' ≠ .abort i) := by
    rcases hm with ⟨rfl, rfl⟩ | ⟨rfl, rfl⟩ <;> simp [eq_comm]
  obtain ⟨harrive, harrive', hother, hother'⟩ := hmoves
  have hplace : ∀ {i}, i ≠ k → x.place id i ≠ x.place id k := fun hi heq =>
    hi (x.place_injective id heq)
  refine h.follows hx hy harrive harrive' hserver (fun i hi => ?_) fun q hq hsweep a => ?_
  · by_cases hik : i = k
    · subst hik
      exact ⟨hpaused, hpoll⟩
    · have hlt := h.lt_ticket hi
      have hplaces := places_step h.left.sound hx (Nat.ne_of_lt hlt.1) (hother hik).1 (hother hik).2
      have hplaces' := places_step h.right.sound hy (Nat.ne_of_lt hlt.2) (hother' (hplace hik)).1
        (hother' (hplace hik)).2
      rw [hplaces.1, hplaces.2, hplaces'.1, hplaces'.2]
      exact ⟨h.paused i hi, h.polls i hi⟩
  · obtain ⟨i, r⟩ := q
    by_cases hik : i = k
    · subst hik
      refine hanswers (fun hin => hsweep ?_) a
      exact h.left.traced.unique (mem_staying.1 hq).1 hin
    · refine iff_of_false (fun ha => ?_) fun ha => ?_
      · rcases ha.who with ⟨r', hr', -⟩ | hresume
        · exact harrive r' hr'
        · exact (hother hik).1 hresume
      · rcases ha.who with ⟨r', hr', -⟩ | hresume
        · exact harrive' r' hr'
        · exact (hother' (hplace hik)).1 hresume

/-! ### A request goes on -/

/-- A request that stays goes on in both, and in the same way. -/
theorem goesOn (h : Mirrors id x y) (hk : k ∈ x.own id) (hp : x.paused.lookup k = some p)
    (hp' : y.paused.lookup (x.place id k) = some p')
    (hst : Standing.Agrees False (x.server.proceed k p).2
      (y.server.proceed (x.place id k) p').2)
    (hserver : (x.server.proceed k p).1.Shares (x.place id) id.source
      (y.server.proceed (x.place id k) p').1)
    (hpoll : (y.server.proceed (x.place id k) p').1.poll? (x.place id k) =
      (x.server.proceed k p).1.poll? k) :
    Mirrors id (x.next k p) (y.next (x.place id k) p') := by
  refine h.follows_one hk (resume_of_paused hp) (resume_of_paused hp') (.inl ⟨rfl, rfl⟩) ?_ ?_ ?_
    fun hsweep a => ?_
  · rw [next, server_settle, next, server_settle]
    exact hserver
  · have hpause : (y.server.proceed (x.place id k) p').2.pause? = (x.server.proceed k p).2.pause? := by
      generalize (x.server.proceed k p).2 = st, (y.server.proceed (x.place id k) p').2 = st' at hst
      cases hst <;> rfl
    rw [next, lookup_goesOn, if_pos rfl, next, lookup_goesOn, if_pos rfl, hpause]
    exact .same _
  · rw [next, server_settle, next, server_settle]
    exact hpoll
  · simp only [answers_iff_of_paused h.left.sound hp, answers_iff_of_paused h.right.sound hp',
      true_and]
    obtain ⟨r, hr, hreaches⟩ := h.left.paused hp
    have hmeets := Server.meets_proceed (s := x.server) k hreaches
    generalize (x.server.proceed k p).2 = st, (y.server.proceed (x.place id k) p').2 = st' at *
    cases hst with
    | same => exact Iff.rfl
    | swept count count' => exact absurd ((hmeets _ rfl : r = .sweep) ▸ hr) hsweep
    | closed hfalse => exact hfalse.elim

/-- Nobody has opened the session that who opens this one names. -/
theorem live_eq_none (h : Mirrors id x y) (hr : (k, r) ∈ x.arrivals)
    (hfresh : r.fresh? = some id.source) (hv : r.Names v) :
    y.server.registry.live? v = none := by
  have hr' := h.arrived (mem_staying.2 ⟨hr, .inr (.inl hfresh)⟩)
  cases he : y.server.registry.live? v with
  | none => rfl
  | some e =>
    have hsource : v ∈ y.server.registry.sources :=
      Registry.entry_isSome_iff.1
        (Option.isSome_iff_exists.2 ⟨e, (Registry.live?_eq_some_iff.1 he).1⟩)
    obtain ⟨j, r', hasked, hfresh'⟩ := h.right.asked hsource
    exact absurd hfresh' (h.apart hr' hfresh hv hasked)

/-- The session is made in both, once nobody else's was found. -/
theorem opens (h : Mirrors id x y) (hk : k ∈ x.own id) (hp : x.paused.lookup k = some p)
    (hp' : y.paused.lookup (x.place id k) = some p') (hv : v ≠ id.source) {aim : Aim}
    (hmisses : p = .seeking v aim ∧ x.server.registry.live? v = none ∨ p = .expiring v aim)
    (hmisses' : p' = .seeking v aim ∧ y.server.registry.live? v = none ∨ p' = .expiring v aim) :
    Mirrors id (x.next k p) (y.next (x.place id k) p') := by
  have hapart : ∀ {t : Traffic} {q : Pause}, q = .seeking v aim ∧ t.server.registry.live? v = none ∨
      q = .expiring v aim → q.about? ≠ some id.source ∧ ∀ since, q ≠ .sweeping since := by
    rintro t q (⟨rfl, -⟩ | rfl) <;>
      exact ⟨fun hu => hv (Option.some.inj hu), by simp⟩
  obtain ⟨hst, hpolls⟩ := Server.proceed_of_misses hmisses k
  obtain ⟨hst', hpolls'⟩ := Server.proceed_of_misses hmisses' (x.place id k)
  refine h.goesOn hk hp hp' ?_ ?_ ?_
  · rw [hst, hst', h.server.missed_eq]
    exact .same _
  · obtain ⟨habout, hsweep⟩ := hapart hmisses
    obtain ⟨habout', hsweep'⟩ := hapart hmisses'
    have hshares := h.server.of_spares (h.left.spares_next hp habout hsweep)
      (h.right.spares_next hp' habout' hsweep')
    rwa [next, server_settle, next, server_settle] at hshares
  · rw [Server.poll?, hpolls', Server.poll?, hpolls]
    exact h.polls k hk

/-- **A request that stays goes on in both**, unless it opens the session and is refused. -/
theorem resumes_paused (h : Mirrors id x y) (hk : k ∈ x.own id) (hp : x.paused.lookup k = some p)
    (hidle : x.findsIdle id.source k = false) :
    (∃ y₁, y.step (.resume (x.place id k)) = some y₁ ∧ Mirrors id (x.next k p) y₁) ∨
      (x.next k p).Refused id.source := by
  have hawaits := h.paused k hk
  rw [hp] at hawaits
  generalize hp' : y.paused.lookup (x.place id k) = op at hawaits
  cases hawaits with
  | behind v =>
    obtain ⟨r, hr, hnames, haim⟩ := h.left.paused hp
    have hfresh := Server.Request.fresh?_of_aim? haim
    have hv : v ≠ id.source := by
      rintro rfl
      exact h.left.distinct hr hfresh hnames
    exact .inl ⟨_, resume_of_paused hp', h.opens hk hp hp' hv (.inr rfl)
      (.inl ⟨rfl, h.live_eq_none hr hfresh hnames⟩)⟩
  | same =>
    rcases h.left.stops_of_own hk hp with hserves | ⟨v, hv, ⟨r, hr, hfresh, hnames⟩, rfl | rfl⟩
    · refine .inl ⟨_, resume_of_paused hp', ?_⟩
      have hnew : ∀ e, p = .enlisting e → e.queue = [] := by
        rintro e rfl
        obtain ⟨since, start, he, -⟩ := h.left.sound.fits _ (Tickets.mem_of_lookup hp)
        rw [he]
        rfl
      obtain ⟨hst, hserver⟩ := h.server.proceed h.left.sound.settled h.right.sound.settled
        h.left.sound.orderly.sources h.right.sound.orderly.sources hserves hnew k
      exact h.goesOn hk hp hp' hst hserver (Server.Shares.poll_proceed
        (h.left.sound.poll_eq_none hp) (h.right.sound.poll_eq_none hp') p)
    · cases hl : x.server.registry.live? v with
      | none =>
        exact .inl ⟨_, resume_of_paused hp', h.opens hk hp hp' hv (.inl ⟨rfl, hl⟩)
          (.inl ⟨rfl, h.live_eq_none hr hfresh hnames⟩)⟩
      | some e =>
        cases hstale : x.server.registry.isStale x.server.now e with
        | true => cases hidle.symm.trans (findsIdle_iff.2 ⟨v, e, hp, hl, hstale⟩)
        | false => exact .inr (refused_of_live h.left.sound hr hfresh hp hl hstale)
    · exact .inl ⟨_, resume_of_paused hp', h.opens hk hp hp' hv (.inr rfl) (.inr rfl)⟩

/-- Who opens the session and finds another one idle is ahead of where it stands in the other run. -/
theorem drops_idle (h : Mirrors id x y) (hk : k ∈ x.own id)
    (hidle : x.findsIdle id.source k = true) (hx : x.step (.resume k) = some x₁) :
    Mirrors id x₁ y := by
  obtain ⟨v, e, hp, hl, hstale⟩ := findsIdle_iff.1 hidle
  obtain ⟨r, hr, hnames, haim⟩ := h.left.paused hp
  have hv : v ≠ id.source := by
    rintro rfl
    exact h.left.distinct hr (Server.Request.fresh?_of_aim? haim) hnames
  have hproceed := Server.proceed_seeking_of_idle hl hstale k (.opening id.source)
  have hstaying : x₁.staying id = x.staying id := by
    rw [staying, arrivals_step_of_ne h.left.sound hx (by simp)]
    rfl
  have hplaces : ∀ {i}, i ∈ x.own id → i ≠ k → x₁.paused.lookup i = x.paused.lookup i ∧
      x₁.server.poll? i = x.server.poll? i := fun hi hik =>
    places_step h.left.sound hx (Nat.ne_of_lt (h.lt_ticket hi).1)
      (fun heq => hik (Move.resume.inj heq).symm) (by simp)
  cases (resume_of_paused hp).symm.trans hx
  refine h.drops hx hstaying
    (h.left.spares_next hp (fun hu => hv (Option.some.inj hu)) (by simp))
    (fun i hi => ?_) fun i hi a ha => ?_
  · by_cases hik : i = k
    · subst hik
      have hawaits := h.paused i hi
      rw [hp] at hawaits
      refine ⟨?_, ?_⟩
      · rw [next, lookup_goesOn, if_pos rfl, hproceed]
        generalize y.paused.lookup (x.place id i) = op at hawaits
        cases hawaits
        exact .behind v
      · rw [next, server_settle, hproceed]
    · obtain ⟨hpaused, hpoll⟩ := hplaces hi hik
      exact ⟨hpaused ▸ h.paused i hi, hpoll⟩
  · have hst := ((answers_iff_of_paused h.left.sound hp).1 ha).2
    rw [hproceed] at hst
    cases hst

/-- A poll that stays goes on in both. -/
theorem resumes_poll (h : Mirrors id x y) (hk : k ∈ x.own id) (hnone : x.paused.lookup k = none)
    {q : Poll} (hq : x.server.poll? k = some q) (hx : x.step (.resume k) = some x₁) :
    ∃ y₁, y.step (.resume (x.place id k)) = some y₁ ∧ Mirrors id x₁ y₁ := by
  have hq' : y.server.poll? (x.place id k) = some q := (h.polls k hk).trans hq
  have hnone' := h.right.sound.paused_eq_none hq'
  obtain ⟨e, he⟩ := h.left.sound.orderly.entry_of_poll hq
  have hsource := h.left.source_of_own hk hq
  obtain ⟨hanswer, hserver, hpoll⟩ := h.server.advancePoll (x.place_injective id) hq hq' hsource
    (hsource ▸ he)
  have hy : y.step (.resume (x.place id k)) =
      some ({ y with server := (y.server.advancePoll (x.place id k)).1 }.note
        (pollNotes y.server (x.place id k) q (y.server.advancePoll (x.place id k)).2)) := by
    simp only [step, resume, hnone', hq', Option.map_some]
  refine ⟨_, hy, ?_⟩
  cases happens_of_step hx with
  | goesOn _ p hp => cases hnone.symm.trans hp
  | polls _ q' _ hq₁ =>
    refine h.follows_one hk hx hy (.inl ⟨rfl, rfl⟩) hserver (h.paused k hk) hpoll fun _ a => ?_
    simp only [answers_iff_of_poll h.left.sound hq, answers_iff_of_poll h.right.sound hq', hanswer,
      true_and]

/-- A request that stays is given up in both. -/
theorem aborts (h : Mirrors id x y) (hk : k ∈ x.own id) (hx : x.step (.abort k) = some x₁) :
    ∃ y₁, y.step (.abort (x.place id k)) = some y₁ ∧ Mirrors id x₁ y₁ := by
  have hanswers : ∀ a, x.Answers (.abort k) k a ↔
      y.Answers (.abort (x.place id k)) (x.place id k) a := fun a =>
    iff_of_false (not_answers (by simp) (by simp)) (not_answers (by simp) (by simp))
  have hawaits := h.paused k hk
  cases happens_of_step hx with
  | leaves _ p hp =>
    obtain ⟨p', hp'⟩ : ∃ p', y.paused.lookup (x.place id k) = some p' := by
      rw [hp] at hawaits
      generalize y.paused.lookup (x.place id k) = op at hawaits
      cases hawaits with
      | same => exact ⟨p, rfl⟩
      | behind v => exact ⟨_, rfl⟩
    have hy : y.step (.abort (x.place id k)) =
        some ((y.take (x.place id k)).note [.aborted (x.place id k)]) := by
      simp only [step, abort, hp']
    refine ⟨_, hy, h.follows_one hk hx hy (.inr ⟨rfl, rfl⟩) h.server ?_ (h.polls k hk)
      fun _ => hanswers⟩
    have hleft : ((x.take k).note [.aborted k]).paused.lookup k = none :=
      (lookup_take x k k).trans (if_pos rfl)
    have hright : ((y.take (x.place id k)).note [.aborted (x.place id k)]).paused.lookup
        (x.place id k) = none :=
      (lookup_take y _ _).trans (if_pos rfl)
    rw [hleft, hright]
    exact .same none
  | hangsUp _ q hnone hq =>
    have hq' : y.server.poll? (x.place id k) = some q := (h.polls k hk).trans hq
    have hnone' := h.right.sound.paused_eq_none hq'
    have hy : y.step (.abort (x.place id k)) =
        some ({ y with server := y.server.dropPoll (x.place id k) }.note
          [.aborted (x.place id k)]) := by
      simp only [step, abort, hnone', hq', Option.map_some]
    have hgone : (y.server.dropPoll (x.place id k)).poll? (x.place id k) =
        (x.server.dropPoll k).poll? k := by
      rw [Server.poll_dropPoll_self hq', Server.poll_dropPoll_self hq]
    exact ⟨_, hy, h.follows_one hk hx hy (.inr ⟨rfl, rfl⟩)
      (h.server.dropPoll (x.place_injective id) hq hq' (h.left.source_of_own hk hq)) hawaits hgone
      fun _ => hanswers⟩

/-! ### Moves of nobody's -/

theorem publishes (h : Mirrors id x y) (stamp : Stamp) (typeId : TypeId) (payload : Json.Value)
    (hx : x.step (.publish stamp typeId payload) = some x₁) :
    ∃ y₁, y.step (.publish stamp typeId payload) = some y₁ ∧ Mirrors id x₁ y₁ := by
  have hy : y.step (.publish stamp typeId payload) = some _ := rfl
  refine ⟨_, hy, ?_⟩
  have hlog : (y.server.publish stamp typeId payload).log =
      (x.server.publish stamp typeId payload).log := by
    rw [Server.publish, h.server.log]
    rfl
  cases happens_of_step hx
  exact h.follows hx hy (by simp) (by simp)
    ⟨h.server.config, h.server.epoch, hlog, h.server.now, h.server.registry⟩
    (fun k hk => ⟨h.paused k hk, h.polls k hk⟩) fun _ _ _ _ =>
      iff_of_false (not_answers (by simp) (by simp)) (not_answers (by simp) (by simp))

theorem passes (h : Mirrors id x y) (nanos : Nat) (hx : x.step (.pass nanos) = some x₁) :
    ∃ y₁, y.step (.pass nanos) = some y₁ ∧ Mirrors id x₁ y₁ := by
  have hy : y.step (.pass nanos) = some _ := rfl
  refine ⟨_, hy, ?_⟩
  cases happens_of_step hx
  exact h.follows hx hy (by simp) (by simp)
    ⟨h.server.config, h.server.epoch, h.server.log, congrArg (· + nanos) h.server.now,
      h.server.registry⟩
    (fun k hk => ⟨h.paused k hk, h.polls k hk⟩) fun _ _ _ _ =>
      iff_of_false (not_answers (by simp) (by simp)) (not_answers (by simp) (by simp))

/-! ### A request arrives -/

/-- Nobody has opened a session that who asks for this one names, whoever arrives. -/
theorem apart_arrive (h : Mirrors id x y) (hy : y.step (.arrive r) = some y₁)
    {i j : Nat} {r₁ r₂ : Server.Request} (hr₁ : (i, r₁) ∈ y₁.arrivals)
    (hfresh : r₁.fresh? = some id.source) (hv : r₁.Names v) (hr₂ : (j, r₂) ∈ y₁.arrivals) :
    r₂.fresh? ≠ some v := by
  have hright := h.right.step hy
  intro hopens
  rcases arrived_step h.right.sound hy hr₁ with hold₁ | ⟨hm₁, -⟩ <;>
    rcases arrived_step h.right.sound hy hr₂ with hold₂ | ⟨hm₂, -⟩
  · exact h.apart hold₁ hfresh hv hold₂ hopens
  · cases hm₂
    exact not_named_of_arrive hy hopens hold₁ (.inl hv)
  · -- whoever stays, while nobody knows the session, opens none
    cases hm₁
    rcases h.stays hold₂ with hcurrent | hasks | ⟨-, hnone⟩
    · refine not_named_of_arrive hy hfresh hold₂ (.inl ?_)
      rw [Server.Request.Names, hcurrent]
      rfl
    · exact not_named_of_arrive hy hfresh hold₂ (.inr hasks)
    · cases hnone.symm.trans hopens
  · cases hm₁
    cases hm₂
    exact hright.distinct hr₂ hopens hv

theorem admits (h : Mirrors id x y) (hx : x.step (.arrive r) = some x₁) : y.admits r = true := by
  cases happens_of_step hx with
  | arrives _ hadmits =>
    cases hfresh : r.fresh? with
    | none => simp [Traffic.admits, hfresh]
    | some w =>
      simp only [Traffic.admits, hfresh, Bool.and_eq_true, Bool.not_eq_true'] at hadmits ⊢
      refine ⟨?_, hadmits.2⟩
      cases hknows : y.knows w with
      | false => rfl
      | true => cases (h.known hknows).symm.trans hadmits.1

/-- Who arrives is answered at once in both, if at all. -/
theorem answers_arrive (h : Mirrors id x y) (hr : r.Stays id) (hx : x.step (.arrive r) = some x₁)
    (hy : y.step (.arrive r) = some y₁) : ∀ q ∈ x₁.staying id, q.2 ≠ .sweep → ∀ instant a,
    (instant, .answered q.1 a) ∈ x₁.notes ↔
      (instant, .answered (x₁.place id q.1) a) ∈ y₁.notes := by
  intro q hq hsweep instant a
  rw [answered_step_iff h.left.sound hx, answered_step_iff h.right.sound hy, answers_arrive_iff,
    answers_arrive_iff, h.server.now, h.server.receive_eq r]
  rw [staying_arrive h.left.sound hx, if_pos hr] at hq
  rcases List.mem_append.1 hq with hold | hnew
  · have hk : q.1 ∈ x.own id := List.mem_map_of_mem hold
    obtain ⟨hlt, hlt'⟩ := h.lt_ticket hk
    rw [place_arrive h.left.sound hr hx hk, h.answers q hold hsweep]
    refine or_congr_right (and_congr_right fun _ => iff_of_false ?_ ?_)
    · exact fun ha => Nat.ne_of_lt hlt ha.1
    · exact fun ha => Nat.ne_of_lt hlt' ha.1
  · cases List.mem_singleton.1 hnew
    have hlast : x₁.place id x.ticket = y.ticket :=
      (h.left.place_ticket hr hx).trans h.ticket_eq.symm
    simp only [hlast, h.left.not_answered, h.right.not_answered, true_and]

/-- **A request that stays arrives in both.** -/
theorem arrives (h : Mirrors id x y) (hr : r.Stays id) (hx : x.step (.arrive r) = some x₁) :
    ∃ y₁, y.step (.arrive r) = some y₁ ∧ Mirrors id x₁ y₁ := by
  have hy : y.step (.arrive r) = some (y.arrive r) := if_pos (h.admits hx)
  refine ⟨_, hy, ?_⟩
  have hown := own_arrive h.left.sound hr hx
  have hplace : ∀ {k}, k ∈ x.own id → x₁.place id k = x.place id k :=
    place_arrive h.left.sound hr hx
  have hlast : x₁.place id x.ticket = y.ticket :=
    (h.left.place_ticket hr hx).trans h.ticket_eq.symm
  have hleft := h.left.step hx
  have hanswers := h.answers_arrive hr hx hy
  have hstaying : x₁.staying id = x.staying id ++ [(x.ticket, r)] := by
    rw [staying_arrive h.left.sound hx, if_pos hr]
  cases happens_of_step hx with
  | arrives =>
    have hserver : (x.arrive r).server = x.server := server_settle _ _ _
    have hserver' : (y.arrive r).server = y.server := server_settle _ _ _
    refine {
      requests := ?_
      answers := hanswers
      server := ?_
      left := hleft
      right := h.right.step hy
      epoch := (congrArg Server.epoch hserver).trans h.epoch
      paused := fun k hk => ?_
      polls := fun k hk => ?_
      apart := fun hr₁ hfresh hv hr₂ => h.apart_arrive hy hr₁ hfresh hv hr₂ }
    · rw [arrivals_step h.right.sound hy, h.requests, hstaying, List.map_append]
      refine congrArg₂ _ (List.map_congr_left fun q hq => ?_) ?_
      · rw [hplace (List.mem_map_of_mem hq)]
      · simp [hlast]
    · rw [hserver, hserver']
      refine ⟨h.server.config, h.server.epoch, h.server.log, h.server.now,
        h.server.registry.congr fun e he j hj => ?_⟩
      exact (hplace (h.left.own_of_queues h.epoch he hj)).symm
    · rw [lookup_arrive h.left.sound, lookup_arrive h.right.sound]
      rw [hown] at hk
      rcases List.mem_append.1 hk with hold | hnew
      · obtain ⟨hlt, hlt'⟩ := h.lt_ticket hold
        rw [hplace hold, if_neg (Nat.ne_of_lt hlt), if_neg (Nat.ne_of_lt hlt')]
        exact h.paused k hold
      · rw [List.mem_singleton.1 hnew, hlast, if_pos rfl, if_pos rfl, h.server.receive_eq r]
        exact .same _
    · rw [hserver, hserver']
      rw [hown] at hk
      rcases List.mem_append.1 hk with hold | hnew
      · rw [hplace hold]
        exact h.polls k hold
      · rw [List.mem_singleton.1 hnew, hlast, h.left.sound.poll_ticket, h.right.sound.poll_ticket]

/-! ### Runs -/

/-- **Step by step**, what is left of a run keeps up with it, unless the session is refused. -/
theorem step (h : Mirrors id x y) (hx : x.step m = some x₁) :
    (∃ y₁, y.run (x.kept id m).toList = some y₁ ∧ Mirrors id x₁ y₁) ∨ x₁.Refused id.source := by
  have hone : ∀ {m'}, (∃ y₁, y.step m' = some y₁ ∧ Mirrors id x₁ y₁) →
      ∃ y₁, y.run (some m').toList = some y₁ ∧ Mirrors id x₁ y₁ := by
    rintro m' ⟨y₁, hy, hmirrors⟩
    exact ⟨y₁, by rw [Option.toList_some, run, hy]; rfl, hmirrors⟩
  cases m with
  | arrive r =>
    simp only [kept]
    split
    · rename_i hr
      exact .inl (hone (h.arrives hr hx))
    · rename_i hr
      refine .inl ⟨y, rfl, h.drops_others hx ?_ (by simp) (by simp) (by simp) (by simp)⟩
      rintro r' heq
      cases heq
      exact hr
  | resume k =>
    simp only [kept]
    split
    · rename_i hk
      cases hp : x.paused.lookup k with
      | some p =>
        cases (resume_of_paused hp).symm.trans hx
        exact (h.resumes_paused hk.1 hp hk.2).imp_left hone
      | none =>
        cases happens_of_step hx with
        | goesOn _ p hp' => cases hp.symm.trans hp'
        | polls _ q _ hq => exact .inl (hone (h.resumes_poll hk.1 hp hq hx))
    · rename_i hk
      refine .inl ⟨y, rfl, ?_⟩
      by_cases hown : k ∈ x.own id
      · exact h.drops_idle hown (by simpa [hown] using hk) hx
      · refine h.drops_others hx (by simp) ?_ (by simp) (by simp) (by simp)
        rintro k' heq
        cases heq
        exact hown
  | abort k =>
    simp only [kept]
    split
    · rename_i hk
      exact .inl (hone (h.aborts hk hx))
    · rename_i hk
      refine .inl ⟨y, rfl, h.drops_others hx (by simp) (by simp) ?_ (by simp) (by simp)⟩
      rintro k' heq
      cases heq
      exact hk
  | publish stamp typeId payload => exact .inl (hone (h.publishes stamp typeId payload hx))
  | pass nanos => exact .inl (hone (h.passes nanos hx))

/-- What is left of a run is a run, and mirrors it. -/
theorem run (h : Mirrors id x y) (hrun : x.run ms = some x₁)
    (hu : id.source ∈ x₁.server.registry.sources) :
    ∃ y₁, y.run (alone id x ms) = some y₁ ∧ Mirrors id x₁ y₁ := by
  induction ms generalizing x y with
  | nil =>
    cases hrun
    exact ⟨y, rfl, h⟩
  | cons m ms ih =>
    obtain ⟨x₂, hx, hrest⟩ := Option.bind_eq_some_iff.1 hrun
    rcases h.step hx with ⟨y₂, hy, hmirrors⟩ | hrefused
    · obtain ⟨y₁, hrun', hdone⟩ := ih hmirrors hrest
      refine ⟨y₁, ?_, hdone⟩
      rw [alone, hx, run_append, hy]
      exact hrun'
    · have hgone : x₁.Tracked ∧ x₁.Refused id.source :=
        run_induction (P := fun t => t.Tracked ∧ t.Refused id.source)
          ⟨h.left.step hx, hrefused⟩ (fun ht hstep => ⟨ht.1.step hstep, ht.2.step ht.1 hstep⟩) hrest
      exact absurd hu hgone.2.1

end Mirrors

/-- **Sessions are isolated.**  Take from a run, with any requests in any order, those that carry only
the ids of other sessions than the one of `u`: the ones that open these, and whatever else asks
for them, whether answered or given up.  What is left is a run on the same server, with the same
events, sweeps and passage of time; the requests that stay get the same answers at the same
instants, and the session of `u` is the same, but for the tickets in its queue. -/
theorem isolated (hnew : Traffic.new config epoch = .ok t₀) (hrun : t₀.run ms = some x)
    (hu : u ∈ x.server.registry.sources) :
    ∃ y, t₀.run (alone ⟨epoch, u⟩ t₀ ms) = some y ∧ Unaffected ⟨epoch, u⟩ x y := by
  have hstart : Mirrors ⟨epoch, u⟩ t₀ t₀ := .new hnew
  obtain ⟨y, hy, hmirrors⟩ := hstart.run hrun hu
  exact ⟨y, hy, hmirrors.toUnaffected⟩

theorem Sample.neighbour_lt : 8 < 1 <<< 128 := by decide

/-- The id of another session. -/
def Sample.neighbour : SessionId := ⟨Sample.epoch, ⟨⟨8, neighbour_lt⟩⟩⟩

/-- Another session is opened first, and presented idle by the request that opens this one.  Then
somebody polls on it and is refused, and somebody gives up closing it, while this one is polled. -/
def Sample.crowded : List Move :=
  [.arrive (.openSession none neighbour.source), .resume 0, .pass 2000000000,
    .arrive (.openSession (some neighbour) source), .resume 1, .resume 1, .resume 1,
    .arrive (.poll (some neighbour)), .arrive (.subscribe (some Sample.id) typeId), .resume 2, .resume 3,
    .arrive (.poll (some Sample.id)), .arrive (.closeSession (some neighbour)), .resume 4, .resume 4,
    .resume 4, .abort 5, publish, .pass 1000000000, .resume 4]

/-- What is left of that without the other session. -/
def Sample.uncrowded : List Move :=
  [.pass 2000000000, .arrive (.openSession (some neighbour) source), .resume 0, .resume 0,
    .arrive (.subscribe (some Sample.id) typeId), .resume 1, .arrive (.poll (some Sample.id)), .resume 2,
    .resume 2, .resume 2, publish, .pass 1000000000, .resume 2]

theorem exists_crowded : ∃ t₀ x b, Traffic.new Sample.brief Sample.epoch = .ok t₀ ∧
    t₀.run Sample.crowded = some x ∧ Sample.source ∈ x.server.registry.sources ∧
    alone Sample.id t₀ Sample.crowded = Sample.uncrowded ∧
    (4, .poll (some Sample.id)) ∈ x.staying Sample.id ∧ x.place Sample.id 4 = 2 ∧
    b.cursor = 0 ∧ b.events.length = 1 ∧
    (3000000000, .answered 4 (.ok (.batch b))) ∈ x.notes :=
  ⟨_, _, _, rfl, rfl, by decide, rfl, by decide, by decide, rfl, rfl,
    List.mem_of_getElem? (i := 16) rfl⟩

theorem isolated_crowded : ∃ t₀ x y b, Traffic.new Sample.brief Sample.epoch = .ok t₀ ∧
    t₀.run Sample.crowded = some x ∧ Sample.source ∈ x.server.registry.sources ∧
    t₀.run Sample.uncrowded = some y ∧ Unaffected Sample.id x y ∧
    b.cursor = 0 ∧ b.events.length = 1 ∧
    (3000000000, .answered 4 (.ok (.batch b))) ∈ x.notes ∧
    (3000000000, .answered 2 (.ok (.batch b))) ∈ y.notes := by
  obtain ⟨t₀, x, b, hnew, hrun, hu, halone, hstays, hplace, hcursor, hlength, hbatch⟩ :=
    exists_crowded
  obtain ⟨y, hy, hsame⟩ := isolated hnew hrun hu
  have hbatch' := (hsame.answers _ hstays (by simp) _ _).1 hbatch
  exact ⟨t₀, x, y, b, hnew, hrun, hu, halone ▸ hy, hsame, hcursor, hlength, hbatch,
    hplace ▸ hbatch'⟩

end Traffic
end EventRelay
