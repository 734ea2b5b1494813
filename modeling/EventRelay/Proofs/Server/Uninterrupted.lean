/-
# Requests that nobody comes in between

A server that has one thing to do at a time answers a request at one go (`Server.serve`).
That is what comes of the request when it goes on from one pause to the next and nobody does
anything meanwhile (`Server.runs_serve`): a server under traffic can always behave like this
(`Traffic.exists_run_serve`), so whatever is true of all its runs is true of such a server.
-/

import EventRelay.Proofs.Server.Replies

namespace EventRelay
namespace Server

variable {s s' : Server} {k : Nat} {source : SourceId} {aim : Aim} {st : Standing}

/-- What a server does with a request that it answers at one go. -/
def serve (s : Server) (ticket : Nat) : Request → Server × Standing
  | .openSession current fresh =>
    let (s, answer) := s.openSession fresh current
    (s, .answered (answer.map .session))
  | .closeSession current =>
    let (s, answer) := s.closeSession current
    (s, .answered (answer.map fun _ => .done))
  | .subscribe current t =>
    let (s, answer) := s.subscribe current t
    (s, .answered (answer.map .changed))
  | .unsubscribe current t =>
    let (s, answer) := s.unsubscribe current t
    (s, .answered (answer.map .changed))
  | .lookup current =>
    match s.resolveNamed current with
    | .error fault => (s, .answered (.error fault))
    | .ok source =>
      let (r, answer) := s.registry.lookup s.now source
      (s.withRegistry r, .answered (answer.map fun _ => .done))
  | .poll current =>
    match s.beginPoll ticket current with
    | (s, .ok ()) => (s, .inLine)
    | (s, .error fault) => (s, .answered (.error fault))
  | .sweep =>
    let (s, count) := s.sweep
    (s, .answered (.ok (.swept count)))

/-- A request goes on until it is answered or in line, and nobody comes in between. -/
inductive Runs (ticket : Nat) : Server → Standing → Server → Standing → Prop where
  | answered (s : Server) (answer : Outcome Served) :
    Runs ticket s (.answered answer) s (.answered answer)
  | inLine (s : Server) : Runs ticket s .inLine s .inLine
  | goesOn {s s' : Server} {p : Pause} {st : Standing}
      (h : Runs ticket (s.proceed ticket p).1 (s.proceed ticket p).2 s' st) :
    Runs ticket s (.paused p) s' st

/-- A request that looks for a session finds it, or it goes on without. -/
theorem runs_seeking {r : Registry} {answer : Outcome Unit}
    (hlookup : s.registry.lookup s.now source = (r, answer))
    (hfound : answer = .ok () → Runs k ((s.withRegistry r).found source aim).1
      ((s.withRegistry r).found source aim).2 s' st)
    (hmissed : answer ≠ .ok () → Runs k (s.withRegistry r) (s.missed aim) s' st) :
    Runs k s (.paused (.seeking source aim)) s' st := by
  refine .goesOn ?_
  unfold Registry.lookup at hlookup
  simp only [proceed]
  cases hglance : s.registry.glance s.now source with
  | mk r₁ sighting =>
    rw [hglance] at hlookup
    cases sighting with
    | absent =>
      cases hlookup
      exact hmissed (by simp)
    | idle =>
      cases hlookup
      exact .goesOn (hmissed (by simp))
    | live =>
      cases hlookup
      exact hfound rfl

theorem runs_makeSession (s : Server) (fresh : SourceId) : Runs k s (s.makeSession fresh)
    (s.withRegistry (s.registry.create s.now fresh s.log.cursor))
    (.answered (.ok (.session ⟨s.epoch, fresh⟩))) :=
  .goesOn (.answered _ _)

/-- A session that is not found is an invalid one. -/
theorem eq_invalidSession {r : Registry} {fault : Fault}
    (h : s.registry.lookup s.now source = (r, .error fault)) : fault = .invalidSession := by
  unfold Registry.lookup at h
  split at h <;> cases h <;> rfl

/-- A request that needs a session. -/
theorem runs_seek {current : Option SessionId} {after : Server × Standing}
    (hunnamed : ∀ fault, s.resolveNamed current = .error fault →
      after = (s, .answered (.error fault)))
    (hmissed : ∀ source r, s.resolveNamed current = .ok source →
      s.registry.lookup s.now source = (r, .error .invalidSession) →
        Runs k (s.withRegistry r) (s.missed aim) after.1 after.2)
    (hfound : ∀ source r, s.resolveNamed current = .ok source →
      s.registry.lookup s.now source = (r, .ok ()) →
        Runs k ((s.withRegistry r).found source aim).1 ((s.withRegistry r).found source aim).2
          after.1 after.2) :
    Runs k s (s.seek current aim) after.1 after.2 := by
  unfold seek
  cases hnamed : s.resolveNamed current with
  | error fault =>
    cases hunnamed fault hnamed
    exact .answered _ _
  | ok source =>
    cases hlookup : s.registry.lookup s.now source with
    | mk r answer =>
      cases answer with
      | error fault =>
        cases eq_invalidSession hlookup
        exact runs_seeking hlookup (by simp) fun _ => hmissed source r hnamed hlookup
      | ok => exact runs_seeking hlookup (fun _ => hfound source r hnamed hlookup) (by simp)

theorem runs_openSession (s : Server) (k : Nat) (current : Option SessionId) (fresh : SourceId) :
    Runs k s (s.receive (.openSession current fresh)) (s.serve k (.openSession current fresh)).1
      (s.serve k (.openSession current fresh)).2 := by
  cases current with
  | none => exact runs_makeSession s fresh
  | some id =>
    simp only [receive, serve, openSession, probeSession]
    cases s.resolve id with
    | error fault => exact runs_makeSession s fresh
    | ok source =>
      dsimp only
      cases hlookup : s.registry.lookup s.now source with
      | mk r answer =>
        cases answer with
        | error fault =>
          exact runs_seeking hlookup (by simp) fun _ => runs_makeSession (s.withRegistry r) fresh
        | ok => exact runs_seeking hlookup (fun _ => .answered _ _) (by simp)

theorem runs_closeSession (s : Server) (k : Nat) (current : Option SessionId) :
    Runs k s (s.receive (.closeSession current)) (s.serve k (.closeSession current)).1
      (s.serve k (.closeSession current)).2 := by
  cases current with
  | none => exact .answered _ _
  | some id =>
    simp only [receive, serve, closeSession]
    cases s.resolve id with
    | error fault => exact .answered _ _
    | ok source =>
      refine .goesOn ?_
      simp only [proceed]
      obtain ⟨r, _ | _⟩ := s.registry.invalidate source <;> exact .answered _ _

/-- **A request is answered as it is at one go.** -/
theorem runs_serve (s : Server) (k : Nat) (r : Request) :
    Runs k s (s.receive r) (s.serve k r).1 (s.serve k r).2 := by
  cases r with
  | openSession current fresh => exact runs_openSession s k current fresh
  | closeSession current => exact runs_closeSession s k current
  | subscribe current t | unsubscribe current t =>
    refine runs_seek (fun fault hnamed => ?_) (fun source r hnamed hlookup => ?_)
      fun source r hnamed hlookup => ?_
    · simp only [serve, subscribe, unsubscribe, hnamed]
      rfl
    · simp only [serve, subscribe, unsubscribe, hnamed, Registry.subscribe, Registry.unsubscribe,
        hlookup]
      exact .answered _ _
    · simp only [serve, subscribe, unsubscribe, hnamed, Registry.subscribe, Registry.unsubscribe,
        hlookup]
      exact .answered _ _
  | lookup current =>
    refine runs_seek (fun fault hnamed => ?_) (fun source r hnamed hlookup => ?_)
      fun source r hnamed hlookup => ?_
    · simp only [serve, hnamed]
    · simp only [serve, hnamed, hlookup]
      exact .answered _ _
    · simp only [serve, hnamed, hlookup]
      exact .answered _ _
  | poll current =>
    refine runs_seek (fun fault hnamed => ?_) (fun source r hnamed hlookup => ?_)
      fun source r hnamed hlookup => ?_
    · simp only [serve, beginPoll, hnamed]
    · simp only [serve, beginPoll, hnamed, hlookup]
      exact .answered _ _
    · simp only [serve, beginPoll, hnamed, hlookup]
      exact .goesOn (.inLine _)
  | sweep => exact .goesOn (.answered _ _)

end Server

namespace Traffic

variable {t : Traffic} {k : Nat}

/-- What is under way can go on alone. -/
theorem exists_run_of_runs {s s' : Server} {st st' : Standing} (h : Server.Runs k s st s' st') :
    ∀ {t : Traffic}, t.server = s → k ∉ t.paused.map Prod.fst →
      ∃ n t', (t.settle k st).run (List.replicate n (.resume k)) = some t' ∧ t'.server = s' ∧
        ∀ answer, st' = .answered answer → .answered k answer ∈ t'.told := by
  induction h with
  | answered s answer =>
    intro t hserver _
    refine ⟨0, _, rfl, hserver, ?_⟩
    rintro answer' ⟨⟩
    simp [settle, told, note]
  | inLine s =>
    intro t hserver _
    exact ⟨0, _, rfl, hserver, by simp⟩
  | @goesOn s s' p st h ih =>
    intro t hserver hfree
    have hlookup : (t.settle k (.paused p)).paused.lookup k = some p := by
      have hnone : t.paused.lookup k = none := List.lookup_eq_none_iff.2 fun q hq => by
        simpa using fun heq : k = q.1 => hfree (heq ▸ List.mem_map_of_mem hq)
      show (t.paused ++ [(k, p)]).lookup k = some p
      rw [List.lookup_append, hnone]
      simp
    have hstep : (t.settle k (.paused p)).step (.resume k) =
        some (settle { (t.settle k (.paused p)).take k with server := (s.proceed k p).1 } k
          (s.proceed k p).2) := by
      have hsame : (t.settle k (.paused p)).server = s := hserver
      simp only [step, resume, hlookup, hsame]
    have hgone : k ∉ (((t.settle k (.paused p)).take k).paused).map Prod.fst := by
      simp [take]
    obtain ⟨n, t', hrun, hafter, hanswer⟩ := ih
      (t := { (t.settle k (.paused p)).take k with server := (s.proceed k p).1 }) rfl hgone
    refine ⟨n + 1, t', ?_, hafter, hanswer⟩
    rw [List.replicate_succ, run, hstep]
    exact hrun

/-- **A request can always be answered as it is at one go.** -/
theorem exists_run_serve (hs : t.Sound) {r : Server.Request} (hr : t.admits r = true) :
    ∃ n t', t.run (.arrive r :: List.replicate n (.resume t.ticket)) = some t' ∧
      t'.server = (t.server.serve t.ticket r).1 ∧
      ∀ answer, (t.server.serve t.ticket r).2 = .answered answer →
        .answered t.ticket answer ∈ t'.told := by
  have hfree : t.ticket ∉ t.paused.map Prod.fst := fun hin =>
    Nat.lt_irrefl _ (hs.issued _ (List.mem_append_left _ hin))
  obtain ⟨n, t', hrun, hafter, hanswer⟩ := exists_run_of_runs
    (t := Traffic.note { t with ticket := t.ticket + 1 } [.arrived t.ticket r])
    (Server.runs_serve t.server t.ticket r) rfl hfree
  refine ⟨n, t', ?_, hafter, hanswer⟩
  rw [run, step, if_pos hr]
  exact hrun

end Traffic
end EventRelay
