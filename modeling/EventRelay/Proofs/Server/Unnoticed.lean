/-
# Sweeps that nobody notices

Between the moves of a run sweeps may come in; `Traffic.go` carries them out, or only passes over
them.  Either way the run can be had the other way as well (`Traffic.unnoticed`): with the same
requests, events and passage of time, and at the same instants the same answers, so long as no sweep
overtakes a poll between the look-up of its session and the queue for its turn (`Traffic.Calm`).  A
request that finds its session idle takes one step more to end it than one that does not find it, so
the two runs may differ in how often a request goes on.

There is one request that notices.  A request to end a session does not ask how long the session has
been idle, so it is granted for one that has lapsed, and refused once a sweep has ended it
(`Traffic.close_notices`).
-/

import EventRelay.Proofs.Server.Alike

namespace EventRelay

/-- One thing that can happen next, or a sweep that goes by an instant. -/
inductive Occurrence where
  | move (m : Move)
  | sweep (since : Nat)

namespace Occurrence

/-- Whether a request goes on. -/
def isResume : Occurrence → Bool
  | move (.resume _) => true
  | move (.arrive _) | move (.abort _) | move (.publish _ _ _) | move (.pass _) | sweep _ => false

/-- Whether the same things happen, but for how often requests go on. -/
def SameButResumes (os os' : List Occurrence) : Prop :=
  os.filter (!·.isResume) = os'.filter (!·.isResume)

namespace SameButResumes

variable {os os' : List Occurrence} {o : Occurrence}

theorem refl (os : List Occurrence) : SameButResumes os os := rfl

theorem symm (h : SameButResumes os os') : SameButResumes os' os := Eq.symm h

theorem cons (o : Occurrence) (h : SameButResumes os os') :
    SameButResumes (o :: os) (o :: os') := by
  simp only [SameButResumes, List.filter_cons]
  rw [h]

theorem resume (k : Nat) (h : SameButResumes os os') :
    SameButResumes os (.move (.resume k) :: os') := by
  rw [SameButResumes, List.filter_cons_of_neg (by simp [isResume])]
  exact h

end SameButResumes
end Occurrence

/-- The session for whose turn a poll is about to queue up. -/
def Pause.lining? : Pause → Option SourceId
  | liningUp u => some u
  | seeking _ _ | expiring _ _ | enlisting _ | closing _ | sweeping _ => none

namespace Traffic

variable {x y x' y' t₀ : Traffic} {us : List SourceId} {u : SourceId} {ttl : Duration} {k : Nat}
  {since : Nat} {os : List Occurrence} {config : ServerConfig} {epoch : Epoch} {m : Move}

/-- Traffic after a sweep. -/
def sweepAt (t : Traffic) (since : Nat) : Traffic :=
  { t with server := t.server.withRegistry (t.server.registry.sweep since).1 }

/-- A request to sweep does just that, and says how many sessions it has ended. -/
example (t : Traffic) (k since : Nat) : t.next k (.sweeping since) =
    ((t.take k).sweepAt since).note
      [.answered k (.ok (.swept (t.server.registry.sweep since).2))] := rfl

/-- Whether a sweep does not overtake a poll: it ends no session that a poll has found and for whose
turn it has not queued up yet. -/
def Calm (t : Traffic) (since : Nat) : Prop :=
  since ≤ t.server.now ∧
    ∀ q ∈ t.paused, ∀ u ∈ q.2.lining?, u ∉ t.server.registry.sweepable since

instance (t : Traffic) (since : Nat) : Decidable (t.Calm since) :=
  inferInstanceAs (Decidable (_ ∧ _))

/-- Lets one thing happen after the other; sweeps are carried out, or only passed over. -/
def go (carried : Bool) (t : Traffic) : List Occurrence → Option Traffic
  | [] => some t
  | .move m :: os => (t.step m).bind fun t' => t'.go carried os
  | .sweep since :: os =>
    if t.Calm since then (if carried then t.sweepAt since else t).go carried os else none

theorem go_sweep {t t' : Traffic} {carried : Bool} (hcalm : t.Calm since) :
    t.go carried (.sweep since :: os) = some t' ↔
      (if carried then t.sweepAt since else t).go carried os = some t' := by
  rw [go, if_pos hcalm]

/-- A sweep is one of the things that can be done to the sessions. -/
theorem Regular.sweepAt (h : Regular ttl x) (since : Nat) : Regular ttl (x.sweepAt since) where
  toSound := by
    have hmarks := Registry.marks_sweep x.server.registry since
    have hsources : (x.server.registry.sweep since).1.sources = x.server.registry.sources := by
      rw [Registry.sources, hmarks]
      rfl
    exact h.withServer (h.orderly.withRegistry hmarks) (Registry.settled_sweep h.settled since)
      (Server.steady_withRegistry _ _) hsources (List.Sublist.refl _)
  traced := h.traced.change rfl rfl (fun _ hq => hq) fun q hq => ⟨q, hq, rfl, rfl⟩
  reached := .sweep _ since h.reached

namespace Paired

/-- A poll that is about to queue up is so on both servers. -/
theorem lining_iff (h : Paired ttl us x y) :
    (∃ q ∈ x.paused, u ∈ q.2.lining?) ↔ ∃ q ∈ y.paused, u ∈ q.2.lining? := by
  have hlookup : ∀ t : Traffic, t.Sound →
      ((∃ q ∈ t.paused, u ∈ q.2.lining?) ↔ ∃ k, t.paused.lookup k = some (.liningUp u)) := by
    intro t ht
    constructor
    · rintro ⟨⟨k, p⟩, hq, hp⟩
      cases p with
      | liningUp v =>
        cases hp
        exact ⟨k, Tickets.lookup_of_mem (List.nodup_append.1 ht.tickets).1 hq⟩
      | seeking | expiring | enlisting | closing | sweeping => cases hp
    · rintro ⟨k, hk⟩
      exact ⟨_, Tickets.mem_of_lookup hk, rfl⟩
  rw [hlookup x h.left.toSound, hlookup y h.right.toSound]
  refine exists_congr fun k => ?_
  have htrails := h.paused k
  generalize x.paused.lookup k = px, y.paused.lookup k = py at htrails
  cases htrails with
  | same => exact Iff.rfl
  | behind => simp

/-- A sweep overtakes a poll on both servers or on neither. -/
theorem calm_iff (h : Paired ttl us x y) (since : Nat) : x.Calm since ↔ y.Calm since := by
  have hoverall : ∀ t : Traffic, t.Calm since ↔ since ≤ t.server.now ∧
      ∀ u, (∃ q ∈ t.paused, u ∈ q.2.lining?) → u ∉ t.server.registry.sweepable since := by
    intro t
    refine and_congr_right fun _ => ?_
    constructor
    · rintro hcalm u ⟨q, hq, hu⟩
      exact hcalm q hq u hu
    · exact fun hcalm q hq u hu => hcalm u ⟨q, hq, hu⟩
  rw [hoverall x, hoverall y, h.now_eq]
  refine and_congr_right fun _ => forall_congr' fun u => ?_
  rw [h.lining_iff]
  refine imp_congr_right fun ⟨q, hq, hu⟩ => not_congr ?_
  rw [h.lapsed.mem_sweepable_iff h.left.orderly.sources h.right.orderly.sources]
  refine and_iff_right ?_
  obtain ⟨k, p⟩ := q
  cases p with
  | liningUp v =>
    cases hu
    exact h.lining k u (Tickets.lookup_of_mem (List.nodup_append.1 h.right.tickets).1 hq)
  | seeking | expiring | enlisting | closing | sweeping => cases hu

/-- **A sweep is carried out on the first server only**: the sessions that it ends have lapsed on
the second one. -/
theorem sweeps (h : Paired ttl us x y) (hcalm : x.Calm since) :
    Paired ttl (us ++ x.server.registry.sweepable since) (x.sweepAt since) y := by
  obtain ⟨htells, -⟩ := Registry.tells_sweep h.left.settled h.left.orderly.sources since
  have hsent : x.server.registry.feed.sent ⊆ (x.sweepAt since).server.registry.feed.sent := by
    rw [sweepAt, Server.withRegistry, htells.sent]
    exact List.subset_append_left _ _
  have hexpired : ∀ u ∈ us ++ x.server.registry.sweepable since,
      .expired u ∈ (x.sweepAt since).server.registry.feed.sent := by
    intro u hu
    rcases List.mem_append.1 hu with hold | hnew
    · exact hsent (h.expired u hold)
    · rw [sweepAt, Server.withRegistry, htells.sent]
      exact List.mem_append_right _ (List.mem_map_of_mem hnew)
  exact {
    server := by
      rw [sweepAt, h.server]
      rfl
    lapsed := h.lapsed.sweep_left h.left.settled h.left.orderly.sources (h.now_eq ▸ hcalm.1)
    expired := hexpired
    ticket := h.ticket
    paused := fun k => (h.paused k).mono hsent
    lining := fun k u hk hu => by
      rcases List.mem_append.1 hu with hold | hnew
      · exact h.lining k u hk hold
      · have hcalm' := (h.calm_iff since).1 hcalm
        obtain ⟨q, hq, hlining⟩ := h.lining_iff.2 ⟨_, Tickets.mem_of_lookup hk, rfl⟩
        exact hcalm.2 q hq u hlining hnew
    notes := h.notes.imp fun _ _ hab =>
      ⟨hab.1, hab.2.mono fun _ hlate => hlate.mono (List.Subset.refl _) hsent (List.Subset.refl _)⟩
    left := h.left.sweepAt since
    right := h.right }

/-- A run with sweeps can be had without. -/
theorem go_passed (h : Paired ttl us x y) (hgo : x.go true os = some x') :
    ∃ os' y' us', y.go false os' = some y' ∧ Occurrence.SameButResumes os os' ∧
      Paired ttl us' x' y' := by
  induction os generalizing x y us with
  | nil =>
    cases hgo
    exact ⟨[], y, us, rfl, .refl _, h⟩
  | cons o os ih =>
    cases o with
    | sweep since =>
      have hcalm : x.Calm since := by
        by_contra hnot
        rw [go, if_neg hnot] at hgo
        cases hgo
      obtain ⟨os', y', us', hgo', hsame, hpaired⟩ := ih (h.sweeps hcalm) ((go_sweep hcalm).1 hgo)
      exact ⟨.sweep since :: os', y', us', (go_sweep ((h.calm_iff since).1 hcalm)).2 hgo',
        hsame.cons _, hpaired⟩
    | move m =>
      obtain ⟨x₁, hx, hrest⟩ := Option.bind_eq_some_iff.1 hgo
      -- the second server may have to catch up first
      have hone : ∀ {y : Traffic}, Paired ttl us x y → ¬ Lags us y m → ∃ os' y' us',
          y.go false (.move m :: os') = some y' ∧ Occurrence.SameButResumes os os' ∧
            Paired ttl us' x' y' := by
        intro y h hm
        have hstep := h.step hm
        rw [hx] at hstep
        generalize hy : y.step m = oy at hstep
        cases hstep with
        | @some _ y₁ hus =>
          obtain ⟨us₁, hpaired⟩ := hus
          obtain ⟨os', y', us', hgo', hsame, hpaired'⟩ := ih hpaired hrest
          exact ⟨os', y', us', by rw [go, hy]; exact hgo', hsame, hpaired'⟩
      by_cases hm : Lags us y m
      · obtain ⟨k, hk⟩ : ∃ k, m = .resume k := by
          obtain ⟨k, u, aim, hk, -⟩ := hm
          exact ⟨k, hk⟩
        obtain ⟨y₁, hy, hpaired, hm'⟩ := h.lags hm
        obtain ⟨os', y', us', hgo', hsame, hpaired'⟩ := hone hpaired hm'
        refine ⟨.move m :: .move m :: os', y', us', by rw [go, hy]; exact hgo', ?_, hpaired'⟩
        rw [hk]
        exact (hsame.cons _).resume k
      · obtain ⟨os', y', us', hgo', hsame, hpaired⟩ := hone h hm
        exact ⟨_, y', us', hgo', hsame.cons _, hpaired⟩

/-- A run without sweeps can be had with them. -/
theorem go_carried (h : Paired ttl us x y) (hgo : y.go false os = some y') :
    ∃ os' x' us', x.go true os' = some x' ∧ Occurrence.SameButResumes os os' ∧
      Paired ttl us' x' y' := by
  induction os generalizing x y us with
  | nil =>
    cases hgo
    exact ⟨[], x, us, rfl, .refl _, h⟩
  | cons o os ih =>
    cases o with
    | sweep since =>
      have hcalm : y.Calm since := by
        by_contra hnot
        rw [go, if_neg hnot] at hgo
        cases hgo
      have hcalm' := (h.calm_iff since).2 hcalm
      obtain ⟨os', x', us', hgo', hsame, hpaired⟩ := ih (h.sweeps hcalm') ((go_sweep hcalm).1 hgo)
      exact ⟨.sweep since :: os', x', us', (go_sweep hcalm').2 hgo', hsame.cons _, hpaired⟩
    | move m =>
      obtain ⟨y₁, hy, hrest⟩ := Option.bind_eq_some_iff.1 hgo
      by_cases hm : Lags us y m
      · -- the first server has nothing to catch up with
        obtain ⟨y₂, hy₂, hpaired, -⟩ := h.lags hm
        obtain rfl := Option.some.inj (hy.symm.trans hy₂)
        obtain ⟨os', x', us', hgo', hsame, hpaired'⟩ := ih hpaired hrest
        obtain ⟨k, u, aim, rfl, -⟩ := hm
        exact ⟨os', x', us', hgo', (hsame.symm.resume k).symm, hpaired'⟩
      · have hstep := h.step hm
        rw [hy] at hstep
        generalize hx : x.step m = ox at hstep
        cases hstep with
        | @some x₁ _ hus =>
          obtain ⟨us₁, hpaired⟩ := hus
          obtain ⟨os', x', us', hgo', hsame, hpaired'⟩ := ih hpaired hrest
          exact ⟨.move m :: os', x', us', by rw [go, hx]; exact hgo', hsame.cons _, hpaired'⟩

end Paired

/-- How the answers to a request compare: they are the same, unless the request is a sweep itself,
or is to end a session that has expired on the first server by then and not on the second. -/
def AgreesOn (x y : Traffic) (k : Nat) : Prop :=
  x.answer? k = y.answer? k ∨ (k, .sweep) ∈ y.arrivals ∨
    Late x y k ∧ x.answer? k = some (.error .invalidSession) ∧ y.answer? k = some (.ok .done)

theorem Alike.agreesOn (h : Alike us x y) (ht : y.Traced) (k : Nat) : AgreesOn x y k := by
  have hsweep : ∀ count, .answered k (.ok (.swept count)) ∈ y.told → (k, .sweep) ∈ y.arrivals := by
    intro count hn
    obtain ⟨r, hr, hgets⟩ := ht.answered hn
    exact (hgets _ rfl : r = .sweep) ▸ hr
  have htold : ∀ n ∈ y.notes, n.2 ∈ y.told := fun n hn => List.mem_map_of_mem hn
  have hnotes := h.notes
  unfold AgreesOn answer?
  generalize x.notes = ns, y.notes = ns' at hnotes htold
  induction hnotes with
  | nil => exact .inl rfl
  | @cons a b ns ns' hab hrest ih =>
    simp only [List.findSome?_cons]
    rcases hab.2.answer k with heq | ⟨count, hb⟩ | ⟨hlate, ha, hb⟩
    · rw [heq]
      cases b.2.answer? k with
      | none => exact ih fun n hn => htold n (List.mem_cons_of_mem _ hn)
      | some answer => exact .inl rfl
    · exact .inr (.inl (hsweep count (hb ▸ htold b List.mem_cons_self)))
    · exact .inr (.inr ⟨hlate, by rw [ha], by rw [hb]⟩)

/-- A server that nobody has asked anything yet is like itself. -/
theorem Paired.new (hnew : Traffic.new config epoch = .ok t₀) :
    Paired config.sessionTtl [] t₀ t₀ where
  toAlike := .refl t₀
  left := .new hnew
  right := .new hnew

/-- **Sweeps go unnoticed.**  Every run with sweeps can be had without them, and every run without
sweeps with them, so that the same happens but for how often requests go on.  All is the same then
but for sessions that have expired on one server and have only lapsed on the other, and all answers
are but those to requests to end such a session (`Alike`, `AgreesOn`). -/
theorem unnoticed (hnew : Traffic.new config epoch = .ok t₀) :
    (∀ os x, t₀.go true os = some x → ∃ os' y us, t₀.go false os' = some y ∧
      Occurrence.SameButResumes os os' ∧ Alike us x y ∧ ∀ k, AgreesOn x y k) ∧
    (∀ os y, t₀.go false os = some y → ∃ os' x us, t₀.go true os' = some x ∧
      Occurrence.SameButResumes os os' ∧ Alike us x y ∧ ∀ k, AgreesOn x y k) := by
  constructor
  · intro os x hx
    obtain ⟨os', y, us, hy, hsame, h⟩ := (Paired.new hnew).go_passed hx
    exact ⟨os', y, us, hy, hsame, h.toAlike, h.toAlike.agreesOn h.right.traced⟩
  · intro os y hy
    obtain ⟨os', x, us, hx, hsame, h⟩ := (Paired.new hnew).go_carried hy
    exact ⟨os', x, us, hx, hsame, h.toAlike, h.toAlike.agreesOn h.right.traced⟩

/-- A poll has found its session and takes its time to queue up. -/
def Sample.dawdling : List Move :=
  opened ++ [.arrive (.poll (some id)), .resume 1, .pass 2000000000]

/-- It queues up, gets the turn, and waits for an event. -/
def Sample.catchingUp : List Move :=
  [.resume 1, .resume 1, publish, .pass 100000000000, .resume 1]

/-- A sweep that overtakes a poll is noticed: the poll is refused, and would have been answered. -/
example : ((Sample.play Sample.brief Sample.dawdling).bind fun t =>
    ((t.sweepAt 2000000000).run Sample.catchingUp).bind fun x =>
      (t.run Sample.catchingUp).bind fun y =>
        (x.answer? 1).bind fun refused => (y.answer? 1).map fun granted =>
          (refused.toOption.isSome, granted.toOption.isSome)) = some (false, true) := by
  rfl

/-- A sweep comes after a session has been idle for too long; then somebody subscribes. -/
def Sample.sweptIdle : List Occurrence :=
  opened.map .move ++ [.move (.pass 2000000000), .sweep 2000000000,
    .move (.arrive (.subscribe (some id) typeId)), .move (.resume 1)]

theorem unnoticed_sample : ∃ t₀ x os y us, Traffic.new Sample.brief Sample.epoch = .ok t₀ ∧
    t₀.go true Sample.sweptIdle = some x ∧ x.answer? 1 = some (.error .invalidSession) ∧
    t₀.go false os = some y ∧ Occurrence.SameButResumes Sample.sweptIdle os ∧ Alike us x y ∧
    ∀ k, AgreesOn x y k := by
  have hrun : ((Traffic.new Sample.brief Sample.epoch).toOption.bind fun t₀ =>
      (t₀.go true Sample.sweptIdle).bind fun x => x.answer? 1) =
      some (.error .invalidSession) := by
    rfl
  obtain ⟨t₀, hnew, hgo⟩ := Sample.exists_start hrun
  obtain ⟨x, hx, hanswer⟩ := Option.bind_eq_some_iff.1 hgo
  obtain ⟨os, y, us, hy, hsame, halike, hanswers⟩ := (unnoticed hnew).1 _ _ hx
  exact ⟨t₀, x, os, y, us, hnew, hx, hanswer, hy, hsame, halike, hanswers⟩

/-- A sweep comes after a session has been idle for too long; then somebody asks to end it. -/
def Sample.closedIdle : List Occurrence :=
  opened.map .move ++ [.move (.pass 2000000000), .sweep 2000000000,
    .move (.arrive (.closeSession (some id))), .move (.resume 1)]

/-- **A request to end a session notices a sweep.** -/
theorem close_notices : ¬ ∀ t₀ os x y k a b, Traffic.new Sample.brief Sample.epoch = .ok t₀ →
    t₀.go true os = some x → t₀.go false os = some y →
    x.answer? k = some a → y.answer? k = some b → a = b := by
  intro hsame
  have hruns : ((Traffic.new Sample.brief Sample.epoch).toOption.bind fun t₀ =>
      (t₀.go true Sample.closedIdle).bind fun x => (t₀.go false Sample.closedIdle).bind fun y =>
        (x.answer? 1).bind fun refused => (y.answer? 1).map fun granted => (refused, granted)) =
      some (.error .invalidSession, .ok .done) := by
    rfl
  obtain ⟨t₀, hnew, hgo⟩ := Sample.exists_start hruns
  obtain ⟨x, hx, hgo⟩ := Option.bind_eq_some_iff.1 hgo
  obtain ⟨y, hy, hgo⟩ := Option.bind_eq_some_iff.1 hgo
  obtain ⟨refused, hrefused, hgo⟩ := Option.bind_eq_some_iff.1 hgo
  obtain ⟨granted, hgranted, heq⟩ := Option.map_eq_some_iff.1 hgo
  cases heq
  cases hsame t₀ _ x y 1 _ _ hnew hx hy hrefused hgranted

end Traffic
end EventRelay
