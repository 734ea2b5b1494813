/-
# A bus that leaves nothing behind

While operations follow one another, a bus changes the list of the session that it holds only when
its handlers ask for it (`Switchboard.leaves_nothing`):

| operation | what it asks for |
| --- | --- |
| a new session | every handled type, each once and in any order, until one fails |
| any other under a session | a type that gets its first handler, or the end of one that loses its last |
| any other without a session | nothing |

So when nothing is under way the list is what has a handler.  That an operation is neither
interrupted nor overtaken matters to new sessions only: what any other operation asks for is
settled when it begins (`Switchboard.listCalls_of_begin`).
-/

import EventRelay.Proofs.Switchboard.Listed

namespace EventRelay

/-! ### What is asked of a list -/

/-- Whether a call changes what is on a list. -/
def Call.changesList : Call → Bool
  | subscribe _ _ | unsubscribe _ _ => true
  | openSession _ | closeSession _ | poll _ | publish _ _ | probe _ => false

/-- What a turn asks of a list. -/
def Turn.listCalls (turn : Turn) : List Call :=
  match turn.progress with
  | .waiting p => [p.call].filter Call.changesList
  | .finished _ => []

namespace Bus

variable {b b' : Bus} {id : SessionId} {t : TypeId} {op : Operation}

/-- What a change of handlers asks of the list: to have a type that gets its first handler, and to
be rid of a type that loses its last one. -/
def asks (b b' : Bus) : List Call :=
  match b.session with
  | none => []
  | some id =>
    (b'.handledTypes.filter (· ∉ b.handledTypes)).map (.subscribe id) ++
      (b.handledTypes.filter (· ∉ b'.handledTypes)).map (.unsubscribe id)

theorem nodup_eraseDups (ts : List TypeId) : ts.eraseDups.Nodup := by
  match ts with
  | [] => simp
  | t :: ts =>
    rw [List.eraseDups_cons]
    exact List.nodup_cons.2 ⟨by simp, nodup_eraseDups _⟩
termination_by ts.length
decreasing_by exact Nat.lt_succ_of_le (List.length_filter_le ..)

theorem nodup_handledTypes (b : Bus) : b.handledTypes.Nodup := nodup_eraseDups _

/-- The types of a list that are just one. -/
theorem filter_eq_singleton {ts : List TypeId} {p : TypeId → Prop} [DecidablePred p]
    (hts : ts.Nodup) (h : ∀ u, u ∈ ts ∧ p u ↔ u = t) : ts.filter (fun u => decide (p u)) = [t] := by
  refine List.perm_singleton.1 ((List.perm_ext_iff_of_nodup (hts.filter _) (by simp)).2 fun u => ?_)
  simpa using h u

theorem asks_of_free (hfree : b.session = none) : b.asks b' = [] := by
  simp only [asks, hfree]

/-- Handlers that stay ask for nothing. -/
theorem asks_of_same (h : ∀ t, t ∈ b'.handledTypes ↔ t ∈ b.handledTypes) : b.asks b' = [] := by
  unfold asks
  split
  · rfl
  · simp [h]

/-- The first handler of a type asks for the type. -/
theorem asks_first (hid : b.session = some id) (ht : t ∉ b.handledTypes)
    (h : ∀ u, u ∈ b'.handledTypes ↔ u ∈ b.handledTypes ∨ u = t) :
    b.asks b' = [.subscribe id t] := by
  have hgained : b'.handledTypes.filter (· ∉ b.handledTypes) = [t] :=
    filter_eq_singleton b'.nodup_handledTypes fun u => by
      rw [h]
      grind
  have hlost : b.handledTypes.filter (· ∉ b'.handledTypes) = [] := by
    simp +contextual [List.filter_eq_nil_iff, h]
  simp only [asks, hid, hgained, hlost, List.map_cons, List.map_nil, List.append_nil]

/-- The last handler of a type asks to be rid of the type. -/
theorem asks_last (hid : b.session = some id) (ht : t ∈ b.handledTypes)
    (h : ∀ u, u ∈ b'.handledTypes ↔ u ∈ b.handledTypes ∧ u ≠ t) :
    b.asks b' = [.unsubscribe id t] := by
  have hgained : b'.handledTypes.filter (· ∉ b.handledTypes) = [] := by
    simp +contextual [List.filter_eq_nil_iff, h]
  have hlost : b.handledTypes.filter (· ∉ b'.handledTypes) = [t] :=
    filter_eq_singleton b.nodup_handledTypes fun u => by
      rw [h]
      grind
  simp only [asks, hid, hgained, hlost, List.map_cons, List.map_nil, List.nil_append]

/-- Nothing is asked twice. -/
theorem nodup_asks (b b' : Bus) : (b.asks b').Nodup := by
  unfold asks
  split
  · exact List.nodup_nil
  · refine List.nodup_append.2 ⟨?_, ?_, ?_⟩
    · exact (b'.nodup_handledTypes.filter _).map fun _ _ h => (Call.subscribe.inj h).2
    · exact (b.nodup_handledTypes.filter _).map fun _ _ h => (Call.unsubscribe.inj h).2
    · rintro c hc c' hc' rfl
      obtain ⟨_, -, rfl⟩ := List.mem_map.1 hc
      obtain ⟨_, -, h⟩ := List.mem_map.1 hc'
      cases h

/-- **What an operation asks when it begins**, unless it is a new session. -/
theorem listCalls_start (hauto : b.autoUnsubscribe = true) (hop : op ≠ .newSession) :
    (b.start op).listCalls = b.asks (b.start op).bus := by
  cases op with
  | newSession => exact absurd rfl hop
  | endSession =>
    rw [bus_start_endSession, asks_of_same (by simp [handledTypes_dropSession])]
    simp only [start]
    split <;> rfl
  | addHandler u recipient =>
    cases hid : b.session with
    | none =>
      rw [asks_of_free hid, start_addHandler_of_free hid]
      rfl
    | some id =>
      rw [start_addHandler hid]
      split
      · rename_i hfirst
        exact (asks_first hid hfirst fun _ => mem_handledTypes_attach).symm
      · rename_i hlater
        rw [not_not] at hlater
        refine (asks_of_same fun t => mem_handledTypes_attach.trans (or_iff_left_of_imp ?_)).symm
        rintro rfl
        exact hlater
  | removeHandler u n =>
    cases hid : b.session with
    | none =>
      rw [asks_of_free hid, start_removeHandler_of_free hid]
      rfl
    | some id =>
      rw [start_removeHandler hauto hid]
      split
      · rename_i hlast
        exact (asks_last hid (mem_handledTypes_of_hasHandler hlast.1) fun _ =>
          mem_handledTypes_detach_of_last hlast.2).symm
      · rename_i hlast
        exact (asks_of_same fun t => mem_handledTypes_detach_of_left hlast).symm
  | poll =>
    simp only [start]
    split <;> (try split) <;> exact (asks_of_same fun _ => Iff.rfl).symm
  | probe | publish => exact (asks_of_same fun _ => Iff.rfl).symm

end Bus

/-- Whether an operation that hears an answer can call again for a list. -/
def Pending.GoesOn : Pending → Prop
  | opening | subscribing _ _ _ _ => True
  | abandoning _ _ | closing _ | adding _ _ _ | removing _ _ | polling _ _ | probing _
  | publishing _ _ => False

namespace Bus

variable {b : Bus} {p : Pending}

theorem not_goesOn_of_start {op : Operation} (hop : op ≠ .newSession)
    (h : (b.start op).progress = .waiting p) : ¬ p.GoesOn := by
  cases op with
  | newSession => exact absurd rfl hop
  | endSession | addHandler | removeHandler | poll =>
    simp only [start] at h
    split at h <;> (try split at h) <;> first | (cases h; exact id) | cases h
  | probe | publish => cases h; exact id

/-- Any operation but a new session is over when it hears an answer. -/
theorem finishes_of_resume (hp : ¬ p.GoesOn) (answer : p.call.Answer) :
    ∃ result, (b.resume p answer).progress = .finished result := by
  have hresumes := b.resumes p answer
  generalize b.resume p answer = turn at hresumes ⊢
  cases hresumes with
  | ends | takesOut | dispatches => exact ⟨_, rfl⟩
  | takesUp | goesOn | givesUp => exact absurd trivial hp

end Bus

namespace Switchboard

variable {x y z w : Switchboard} {m : Move} {ms : List Move} {k j : Nat} {id : SessionId}
  {c : Call} {op : Operation}

/-- What the operation of a ticket asks of a list with a note. -/
def Note.listCall? (k : Nat) : Note → Option Call
  | .called j c => if j = k ∧ c.changesList = true then some c else none
  | .served _ _ _ | .handed _ _ | .returned _ _ => none

/-- What the operation of a ticket has asked of lists. -/
def listCalls (x : Switchboard) (k : Nat) : List Call := x.notes.filterMap (Note.listCall? k)

theorem mem_listCalls : c ∈ x.listCalls k ↔ .called k c ∈ x.notes ∧ c.changesList = true := by
  simp only [listCalls, List.mem_filterMap]
  constructor
  · rintro ⟨n, hn, hcall⟩
    cases n with
    | called j c' =>
      simp only [Note.listCall?] at hcall
      split at hcall
      · rename_i hmatch
        obtain ⟨rfl, hchanges⟩ := hmatch
        cases hcall
        exact ⟨hn, hchanges⟩
      · cases hcall
    | served | handed | returned => cases hcall
  · rintro ⟨hn, hchanges⟩
    exact ⟨_, hn, if_pos ⟨rfl, hchanges⟩⟩

theorem listCalls_adopt (x : Switchboard) (j k : Nat) (turn : Turn) :
    (x.adopt j turn).listCalls k = x.listCalls k ++ if j = k then turn.listCalls else [] := by
  have hhanded : (turn.delivered.map (Note.handed j)).filterMap (Note.listCall? k) = [] := by
    simp [List.filterMap_eq_nil_iff, Note.listCall?]
  simp only [listCalls, adopt, Turn.notes, Turn.listCalls, List.filterMap_append, hhanded,
    List.nil_append]
  congr 1
  cases turn.progress with
  | finished result => simp [Note.listCall?]
  | waiting p =>
    by_cases hj : j = k
    · by_cases hchanges : p.call.changesList = true <;> simp [Note.listCall?, hj, hchanges]
    · simp [Note.listCall?, hj]

/-- **What an operation asks after it has begun:** something only when it hears an answer. -/
theorem listCalls_step (hz : y.step m = some z) (hissued : k < y.ticket) :
    z.listCalls k = y.listCalls k ∨ m = .deliver k ∧ ∃ p answer,
      y.underway? k = some ⟨p, some answer⟩ ∧
        z.listCalls k = y.listCalls k ++ (y.bus.resume p answer).listCalls := by
  cases happens_of_step hz with
  | begins op =>
    rw [listCalls_adopt, if_neg (Nat.ne_of_gt hissued), List.append_nil]
    exact .inl rfl
  | drops | resumes | tidies | cancels => exact .inl rfl
  | serves j reply p hj => exact .inl (by simp [answered, listCalls, Note.listCall?])
  | delivers j p answer hj =>
    rw [listCalls_adopt]
    by_cases hjk : j = k
    · subst hjk
      exact .inr ⟨rfl, p, answer, hj, by rw [if_pos rfl]; rfl⟩
    · rw [if_neg hjk, List.append_nil]
      exact .inl rfl

/-! ### What has begun -/

/-- What a move calls for. -/
theorem called_of_step (hz : y.step m = some z) (hin : .called k c ∈ z.notes) :
    .called k c ∈ y.notes ∨ (∃ op, m = .begin op ∧ k = y.ticket) ∨
      ∃ d, y.underway? k = some d := by
  cases happens_of_step hz with
  | drops | resumes | tidies | cancels => exact .inl hin
  | serves => exact .inl (by simpa [answered] using hin)
  | begins op =>
    rcases List.mem_append.1 hin with hold | hnew
    · exact .inl hold
    · exact .inr (.inl ⟨op, rfl, (Turn.mem_notes_called.1 hnew).1⟩)
  | delivers j p answer hj =>
    rcases List.mem_append.1 hin with hold | hnew
    · exact .inl hold
    · obtain ⟨rfl, -⟩ := Turn.mem_notes_called.1 hnew
      exact .inr (.inr ⟨_, hj⟩)

/-- Whether the operation of a ticket has begun in a run. -/
def Begun (x : Switchboard) (ms : List Move) (k : Nat) : Prop :=
  ∃ op w, x.Makes ms (.begin op) w ∧ w.ticket = k

theorem Begun.concat (hy : x.run ms = some y) (h : x.Begun ms k) : x.Begun (ms ++ [m]) k := by
  obtain ⟨op, w, hmakes, hk⟩ := h
  exact ⟨op, w, hmakes.concat hy, hk⟩

theorem begun_now (hy : x.run ms = some y) (op : Operation) :
    x.Begun (ms ++ [.begin op]) y.ticket :=
  ⟨op, y, (makes_concat hy).2 (.inr ⟨rfl, rfl⟩), rfl⟩

/-- **Whoever calls has begun.** -/
theorem begun_of_called (hidle : x.callers = []) (hnone : x.notes = []) (h : x.run ms = some y)
    (hin : .called k c ∈ y.notes) : x.Begun ms k := by
  have hall : (∀ k d, (k, d) ∈ y.callers → x.Begun ms k) ∧
      ∀ k c, .called k c ∈ y.notes → x.Begun ms k := by
    refine run_induction (Q := fun ms y => (∀ k d, (k, d) ∈ y.callers → x.Begun ms k) ∧
      ∀ k c, .called k c ∈ y.notes → x.Begun ms k) ?_ ?_ h
    · simp [hidle, hnone]
    · rintro ms y m z hy ⟨hcallers, hcalled⟩ hz
      constructor
      · intro k d hd
        rcases caller_of_step hz hd with hold | ⟨op, _, rfl, rfl, -⟩ | ⟨_, _, -, hk, -⟩ |
          ⟨-, _, _, _, hk, -⟩
        · exact (hcallers k d hold).concat hy
        · exact begun_now hy op
        · exact (hcallers k _ (mem_of_underway? hk)).concat hy
        · exact (hcallers k _ (mem_of_underway? hk)).concat hy
      · intro k c hin
        rcases called_of_step hz hin with hold | ⟨op, rfl, rfl⟩ | ⟨d, hk⟩
        · exact (hcalled k c hold).concat hy
        · exact begun_now hy op
        · exact (hcallers k d (mem_of_underway? hk)).concat hy
  exact hall.2 k c hin

theorem Begun.issued (h : x.run ms = some y) (hbegun : x.Begun ms k) : k < y.ticket := by
  refine run_induction (Q := fun ms y => x.Begun ms k → k < y.ticket) ?_ ?_ h hbegun
  · rintro ⟨op, w, hmakes, -⟩
    exact absurd hmakes not_makes_nil
  · rintro ms y m z hy ih hz ⟨op, w, hmakes, rfl⟩
    rcases (makes_concat hy).1 hmakes with hmakes | ⟨rfl, rfl⟩
    · exact Nat.lt_of_lt_of_le (ih ⟨op, w, hmakes, rfl⟩) (ticket_le_step hz)
    · cases hz
      exact Nat.lt_succ_self _

/-- Nobody has asked anything with the next ticket. -/
theorem listCalls_ticket (hidle : x.callers = []) (hnone : x.notes = []) (h : x.run ms = some y) :
    y.listCalls y.ticket = [] := by
  refine List.eq_nil_iff_forall_not_mem.2 fun c hc => ?_
  have hbegun := begun_of_called hidle hnone h (mem_listCalls.1 hc).1
  exact Nat.lt_irrefl _ (hbegun.issued h)

/-! ### Operations other than new sessions -/

/-- What an operation has asked that asks no more. -/
structure HasAsked (y : Switchboard) (k : Nat) (calls : List Call) : Prop where
  issued : k < y.ticket
  calls : y.listCalls k = calls
  settled : ∀ {d}, (k, d) ∈ y.callers → ¬ d.pending.GoesOn

variable {calls : List Call}

theorem HasAsked.step (h : y.HasAsked k calls) (hz : y.step m = some z) : z.HasAsked k calls := by
  refine ⟨Nat.lt_of_lt_of_le h.issued (ticket_le_step hz), ?_, fun {d} hd => ?_⟩
  · rcases listCalls_step hz h.issued with hsame | ⟨-, p, answer, hk, hmore⟩
    · rw [hsame, h.calls]
    · obtain ⟨result, hfinished⟩ :=
        y.bus.finishes_of_resume (h.settled (mem_of_underway? hk)) answer
      rw [hmore, h.calls, Turn.listCalls, hfinished, List.append_nil]
  · rcases caller_of_step hz hd with hold | ⟨_, _, -, rfl, -⟩ | ⟨p, _, -, hk, rfl⟩ |
      ⟨-, p, answer, p', hk, hwaiting, -⟩
    · exact h.settled hold
    · exact absurd h.issued (Nat.lt_irrefl _)
    · exact h.settled (d := ⟨p, none⟩) (mem_of_underway? hk)
    · obtain ⟨result, hfinished⟩ :=
        y.bus.finishes_of_resume (h.settled (mem_of_underway? hk)) answer
      cases hfinished.symm.trans hwaiting

theorem asked_of_begin (hy : y.Ticketed) (hnone : y.listCalls y.ticket = [])
    (hauto : y.bus.autoUnsubscribe = true) (hop : op ≠ .newSession)
    (hz : y.step (.begin op) = some z) :
    z.HasAsked y.ticket (y.bus.asks (y.bus.start op).bus) := by
  cases hz
  refine ⟨Nat.lt_succ_self _, ?_, fun {d} hd => ?_⟩
  · have hbefore : { y with ticket := y.ticket + 1 }.listCalls y.ticket = [] := hnone
    rw [listCalls_adopt, if_pos rfl, hbefore, List.nil_append, Bus.listCalls_start hauto hop]
  · rcases mem_adopt.1 hd with hold | ⟨-, hnew⟩
    · exact absurd (hy.issued _ hold) (Nat.lt_irrefl _)
    · obtain ⟨p, hwaiting, rfl⟩ := Turn.underway?_eq_some_iff.1 hnew
      exact Bus.not_goesOn_of_start hop hwaiting

/-- **What an operation asks is settled when it begins.** -/
theorem listCalls_of_begin (hx : x.InStep) (hidle : x.callers = []) (hnone : x.notes = [])
    (hms : x.OneByOne ms) (h : x.run ms = some y) (hmakes : x.Makes ms (.begin op) w)
    (hop : op ≠ .newSession) : y.listCalls w.ticket = w.bus.asks (w.bus.start op).bus := by
  have hasked : y.HasAsked w.ticket (w.bus.asks (w.bus.start op).bus) := by
    refine hx.since (P := fun y => y.HasAsked w.ticket (w.bus.asks (w.bus.start op).bus))
      (fun hw hin _ hz => ?_) (fun _ _ _ hz hasked => hasked.step hz) hms h hmakes
    exact asked_of_begin hin.ticketed (listCalls_ticket hidle hnone hw) hin.tidies hop hz
  exact hasked.calls

/-! ### New sessions -/

/-- What a new session has asked: to have handled types one after the other, in any order, and all
of them if it has told its caller of the session. -/
inductive Subscribes (handled : List TypeId) (calls : List Call) (told : SessionId → Prop) :
    Prop where
  | nothing (asked : calls = []) (untold : ∀ id, ¬ told id)
  | types (id : SessionId) (done rest : List TypeId) (types : (done ++ rest).Perm handled)
      (asked : calls = done.map (.subscribe id)) (all : ∀ id', told id' → id' = id ∧ rest = [])

theorem Subscribes.mono {handled : List TypeId} {calls : List Call} {told told' : SessionId → Prop}
    (h : Subscribes handled calls told) (htold : ∀ id, told' id → told id) :
    Subscribes handled calls told' := by
  cases h with
  | nothing asked untold => exact .nothing asked fun id h => untold id (htold id h)
  | types id done rest types asked all =>
    exact .types id done rest types asked fun id' h => all id' (htold id' h)

/-- How far a new session is that began with `handled` types. -/
inductive ComesTo (handled : List TypeId) (b : Bus) (calls : List Call) : Underway → Prop where
  | opening (answer : Option (Outcome SessionId)) (types : b.handledTypes = handled)
      (asked : calls = []) :
    ComesTo handled b calls ⟨.opening, answer⟩
  | subscribing (id : SessionId) (generation : Nat) (t : TypeId) (done rest : List TypeId)
      (answer : Option (Outcome Bool)) (types : (done ++ t :: rest).Perm handled)
      (asked : calls = (done ++ [t]).map (.subscribe id)) :
    ComesTo handled b calls ⟨.subscribing id generation t rest, answer⟩
  | abandoning (id : SessionId) (fault : Fault) (done rest : List TypeId)
      (answer : Option (Outcome Unit)) (types : (done ++ rest).Perm handled)
      (asked : calls = done.map (.subscribe id)) :
    ComesTo handled b calls ⟨.abandoning id fault, answer⟩

/-- How far a new session is after a turn. -/
def Proceeds (handled : List TypeId) (calls : List Call) (turn : Turn) : Prop :=
  match turn.progress with
  | .waiting p => ComesTo handled turn.bus (calls ++ turn.listCalls) ⟨p, none⟩
  | .finished result => Subscribes handled calls fun id => result = .ok (.session id)

namespace ComesTo

variable {handled : List TypeId} {b b' : Bus} {d : Underway} {p : Pending}

theorem congr (h : ComesTo handled b calls d) (htypes : b'.handledTypes = b.handledTypes) :
    ComesTo handled b' calls d := by
  cases h with
  | opening answer types asked => exact .opening answer (htypes.trans types) asked
  | subscribing id generation t done rest answer types asked =>
    exact .subscribing id generation t done rest answer types asked
  | abandoning id fault done rest answer types asked =>
    exact .abandoning id fault done rest answer types asked

theorem answered (h : ComesTo handled b calls ⟨p, none⟩) (answer : p.call.Answer) :
    ComesTo handled b calls ⟨p, some answer⟩ := by
  cases h with
  | opening _ types asked => exact .opening (some answer) types asked
  | subscribing id generation t done rest _ types asked =>
    exact .subscribing id generation t done rest (some answer) types asked
  | abandoning id fault done rest _ types asked =>
    exact .abandoning id fault done rest (some answer) types asked

/-- A new session fails, whatever it has subscribed. -/
theorem fails {before rest : List TypeId} {fault : Fault} (types : (before ++ rest).Perm handled)
    (asked : calls = before.map (.subscribe id)) :
    Proceeds handled calls (b.finish (.error fault)) :=
  .types id before rest types asked fun _ h => by cases h

theorem subscribeNext {generation : Nat} {done rest : List TypeId} (types : (done ++ rest).Perm handled)
    (asked : calls = done.map (.subscribe id)) :
    Proceeds handled calls (b.subscribeNext id generation rest) := by
  cases rest with
  | nil =>
    refine .types id done [] types asked fun id' htold => ?_
    cases htold
    exact ⟨rfl, rfl⟩
  | cons t rest =>
    refine .subscribing id generation t done rest none types ?_
    rw [asked, List.map_append]
    rfl

/-- A new session takes up what it is granted. -/
theorem takesUp (types : b.handledTypes = handled) (free : b.session = none) (id : SessionId) :
    Proceeds handled [] (b.resume .opening (.ok id)) := by
  rw [Bus.resume_opening free]
  have hkeys : ([] ++ (b.hold id).keys).Perm handled := types ▸ (b.hold id).keys_perm
  exact subscribeNext hkeys rfl

/-- A new session cannot subscribe a type, and is given up. -/
theorem givesUp {t : TypeId} {before rest after : List TypeId} (types : (before ++ rest).Perm handled)
    (asked : calls = before.map (.subscribe id)) (held : b.session = some id) (fault : Fault) :
    Proceeds handled calls (b.resume (.subscribing id b.generation t after) (.error fault)) := by
  rw [Bus.resume_subscribing held]
  refine .abandoning id fault before rest none types ?_
  rw [asked]
  exact List.append_nil _

/-- **A new session hears an answer.** -/
theorem resumed {s : Service} {answer : p.call.Answer}
    (h : ComesTo handled b calls ⟨p, some answer⟩) (hsees : Underway.Sees b s ⟨p, some answer⟩) :
    Proceeds handled calls (b.resume p answer) := by
  cases h with
  | opening _ types asked =>
    subst asked
    cases hsees with
    | opens _ free fresh =>
      cases answer with
      | error fault => exact .nothing rfl fun _ h => by cases h
      | ok id => exact takesUp types free id
  | subscribing id generation t done rest _ types asked =>
    have htypes : ((done ++ [t]) ++ rest).Perm handled := by simpa using types
    cases hsees with
    | subscribes _ _ before _ _ held =>
      cases answer with
      | error fault => exact givesUp htypes asked held fault
      | ok changed => exact subscribeNext htypes asked
  | abandoning id fault done rest _ types asked => exact fails types asked

end ComesTo

/-- How far the new session of a ticket is, or what it has asked once it is over. -/
inductive Comes (y : Switchboard) (handled : List TypeId) (k : Nat) : Prop where
  | under (d : Underway) (alone : y.callers = [(k, d)])
      (comesTo : ComesTo handled y.bus (y.listCalls k) d)
  | ended (gone : y.Over k)
      (asked : Subscribes handled (y.listCalls k) fun id =>
        .returned k (.ok (.session id)) ∈ y.notes)

namespace Comes

variable {handled : List TypeId}

/-- A turn of a new session is taken over while nothing else is under way. -/
theorem adopt {turn : Turn} (hidle : y.callers = []) (hissued : k < y.ticket)
    (huntold : ∀ result, .returned k result ∉ y.notes)
    (h : Proceeds handled (y.listCalls k) turn) : (y.adopt k turn).Comes handled k := by
  have hcalls : (y.adopt k turn).listCalls k = y.listCalls k ++ turn.listCalls := by
    rw [listCalls_adopt, if_pos rfl]
  obtain ⟨b, delivered, progress⟩ := turn
  cases progress with
  | waiting p =>
    refine .under ⟨p, none⟩ ?_ ?_
    · simp [Switchboard.adopt, hidle, Turn.underway?]
    · rw [hcalls]
      exact h
  | finished result =>
    refine .ended ⟨hissued, fun c hc => ?_⟩ ?_
    · rcases mem_adopt.1 hc with hold | ⟨-, hnew⟩
      · rw [hidle] at hold
        cases hold
      · cases hnew
    · have hnone : y.listCalls k ++ Turn.listCalls ⟨b, delivered, .finished result⟩ =
          y.listCalls k := List.append_nil _
      have hsubscribes : Subscribes handled (y.listCalls k) fun id =>
        result = .ok (.session id) := h
      rw [hcalls, hnone]
      refine hsubscribes.mono fun id htold => ?_
      rcases List.mem_append.1 htold with hold | hnew
      · exact absurd hold (huntold _)
      · exact Progress.finished.inj (Turn.mem_notes_returned.1 hnew).2

/-- A new session begins. -/
theorem of_begin (hidle : y.callers = []) (hnone : y.listCalls y.ticket = [])
    (huntold : ∀ result, .returned y.ticket result ∉ y.notes)
    (hz : y.step (.begin .newSession) = some z) : z.Comes y.bus.handledTypes y.ticket := by
  cases hz
  have hbefore : { y with ticket := y.ticket + 1 }.listCalls y.ticket = [] := hnone
  refine adopt (y := { y with ticket := y.ticket + 1 }) hidle (Nat.lt_succ_self _) huntold ?_
  rw [hbefore]
  simp only [Bus.start]
  split
  · exact .nothing rfl fun _ h => by cases h
  · exact .opening none rfl rfl

/-- **What each move keeps.** -/
theorem step (h : y.Comes handled k) (hin : y.InStep)
    (hreturned : ∀ result, .returned k result ∈ y.notes → y.Over k) (hm : y.Apart m)
    (hz : y.step m = some z) : z.Comes handled k := by
  cases h with
  | ended gone asked =>
    refine .ended (gone.step hz) ?_
    rcases listCalls_step hz gone.issued with hsame | ⟨-, p, answer, hk, -⟩
    · rw [hsame]
      exact asked.mono fun id => gone.returned hz
    · exact absurd (mem_of_underway? hk) (gone.gone _)
  | under d alone comesTo =>
    have hmem : (k, d) ∈ y.callers := by simp [alone]
    have hissued : k < y.ticket := hin.ticketed.issued _ hmem
    cases happens_of_step hz with
    | begins | drops => cases alone.symm.trans hm
    | resumes =>
      refine .under d alone (comesTo.congr ?_)
      rw [Bus.handledTypes, y.bus.handlers_resumeSession]
      rfl
    | tidies => exact .under d alone (comesTo.congr rfl)
    | serves j reply p hj =>
      obtain ⟨rfl, rfl⟩ := eq_of_underway? alone hj
      have hsame : (y.answered j p (reply p.call)).listCalls j = y.listCalls j := by
        simp [answered, listCalls, Note.listCall?]
      refine .under ⟨p, some (reply p.call)⟩ ?_ (hsame ▸ comesTo.answered _)
      simp only [answered, callers_without_of_singleton alone, List.nil_append]
    | delivers j p answer hj =>
      obtain ⟨rfl, rfl⟩ := eq_of_underway? alone hj
      have hproceeds := comesTo.resumed (hin.sees hj).2
      refine adopt (callers_without_of_singleton alone) hissued (fun result htold => ?_) hproceeds
      exact (hreturned result htold).gone _ hmem
    | cancels => exact hm.elim

theorem subscribes (h : y.Comes handled k)
    (hreturned : ∀ result, .returned k result ∈ y.notes → y.Over k) :
    Subscribes handled (y.listCalls k) fun id => .returned k (.ok (.session id)) ∈ y.notes := by
  cases h with
  | ended gone asked => exact asked
  | under d alone comesTo =>
    have hmem : (k, d) ∈ y.callers := by simp [alone]
    have huntold : ∀ id, .returned k (.ok (.session id)) ∉ y.notes := fun id htold =>
      (hreturned _ htold).gone d hmem
    cases comesTo with
    | opening answer types asked => exact .nothing asked huntold
    | subscribing id generation t done rest answer types asked =>
      have htypes : ((done ++ [t]) ++ rest).Perm handled := by simpa using types
      exact .types id _ rest htypes asked fun id' htold => absurd htold (huntold id')
    | abandoning id fault done rest answer types asked =>
      exact .types id done rest types asked fun id' htold => absurd htold (huntold id')

end Comes

/-- **What a new session asks.** -/
theorem subscribes_of_begin (hx : x.InStep) (hidle : x.callers = []) (hnone : x.notes = [])
    (hms : x.OneByOne ms) (h : x.run ms = some y) (hmakes : x.Makes ms (.begin .newSession) w) :
    Subscribes w.bus.handledTypes (y.listCalls w.ticket) fun id =>
      .returned w.ticket (.ok (.session id)) ∈ y.notes := by
  have hover {ms y k} (hy : x.run ms = some y) (result) (hin : .returned k result ∈ y.notes) :
      y.Over k := over_of_returned hx.ticketed hnone hy hin
  have hcomes : y.Comes w.bus.handledTypes w.ticket := by
    refine hx.since (P := fun y => y.Comes w.bus.handledTypes w.ticket) (fun hw _ hm hz => ?_)
      (fun hy hin hm hz hcomes => hcomes.step hin (hover hy) hm hz) hms h hmakes
    refine .of_begin hm (listCalls_ticket hidle hnone hw) (fun result htold => ?_) hz
    exact Nat.lt_irrefl _ (hover hw result htold).issued
  exact hcomes.subscribes (hover h)

theorem Subscribes.nodup {handled : List TypeId} {told : SessionId → Prop}
    (h : Subscribes handled calls told) (honce : handled.Nodup) : calls.Nodup := by
  cases h with
  | nothing asked untold =>
    rw [asked]
    exact List.nodup_nil
  | types id done rest types asked all =>
    rw [asked]
    have hdone : done.Nodup := (List.nodup_append.1 (types.nodup_iff.2 honce)).1
    exact hdone.map fun _ _ h => (Call.subscribe.inj h).2

/-! ### Nothing is left behind -/

/-- What is true of a run whose bus leaves nothing behind. -/
structure LeavesNothing (x : Switchboard) (ms : List Move) (y : Switchboard) : Prop where
  /-- When nothing is under way, the list of the session that is held is what has a handler. -/
  listed : y.callers = [] → ∀ id, y.Holds id →
    ∀ t, (id, t) ∈ y.service.subscribed ↔ ∃ h ∈ y.bus.handlers, h.typeId = t
  /-- Only operations ask. -/
  begun : ∀ k c, c ∈ y.listCalls k → x.Begun ms k
  /-- An operation asks for the types that get their first handler and to be rid of those that lose
  their last, when it begins. -/
  others : ∀ op w, x.Makes ms (.begin op) w → op ≠ .newSession →
    y.listCalls w.ticket = w.bus.asks (w.bus.start op).bus
  /-- A new session asks for the types that have a handler when it begins, in whatever order it
  comes upon them. -/
  newSessions : ∀ w, x.Makes ms (.begin .newSession) w →
    Subscribes w.bus.handledTypes (y.listCalls w.ticket) fun id =>
      .returned w.ticket (.ok (.session id)) ∈ y.notes
  /-- No operation asks the same thing twice. -/
  once : ∀ k, (y.listCalls k).Nodup

/-- **A bus leaves nothing behind**, while its operations follow one another and no type that is to
go off a list stays on it. -/
theorem leaves_nothing {fingerprint : Fingerprint} {keys : KeyOrder}
    (h : (Switchboard.new fingerprint keys).run ms = some y)
    (hms : (Switchboard.new fingerprint keys).OneByOne ms) :
    (Switchboard.new fingerprint keys).LeavesNothing ms y := by
  have hin : y.InStep := (InStep.new fingerprint keys).run hms h
  have hothers (op w) (hmakes : (Switchboard.new fingerprint keys).Makes ms (.begin op) w)
      (hop : op ≠ .newSession) : y.listCalls w.ticket = w.bus.asks (w.bus.start op).bus :=
    listCalls_of_begin (.new fingerprint keys) rfl rfl hms h hmakes hop
  have hnewSessions (w)
      (hmakes : (Switchboard.new fingerprint keys).Makes ms (.begin .newSession) w) :
      Subscribes w.bus.handledTypes (y.listCalls w.ticket) fun id =>
        .returned w.ticket (.ok (.session id)) ∈ y.notes :=
    subscribes_of_begin (.new fingerprint keys) rfl rfl hms h hmakes
  have hbegun (k c) (hc : c ∈ y.listCalls k) : (Switchboard.new fingerprint keys).Begun ms k :=
    begun_of_called rfl rfl h (mem_listCalls.1 hc).1
  refine ⟨fun hidle id hid t => ?_, hbegun, hothers, hnewSessions, fun k => ?_⟩
  · exact (hin.follows hidle id hid t).trans Bus.mem_handledTypes
  · cases hcalls : y.listCalls k with
    | nil => exact List.nodup_nil
    | cons c cs =>
      obtain ⟨op, w, hmakes, rfl⟩ := hbegun k c (by simp [hcalls])
      rw [← hcalls]
      by_cases hop : op = .newSession
      · subst hop
        exact (hnewSessions w hmakes).nodup w.bus.nodup_handledTypes
      · rw [hothers op w hmakes hop]
        exact Bus.nodup_asks ..

/-- A new session may come first upon the type that was handled last. -/
example : ((Switchboard.new .compiled ⟨fun _ ts => ts.reverse, fun _ ts => ts.reverse_perm⟩).run
    [.begin (.addHandler Sample.typeId "alice"), .begin (.addHandler ⟨"tock", by decide⟩ "alice"),
      .begin .newSession, .serve 2 Sample.agrees, .deliver 2]).map (·.listCalls 2) =
    some [.subscribe Sample.session ⟨"tock", by decide⟩] := rfl

namespace Sample

/-- A handler is there before the session, and goes while the session is held. -/
def outlives : List Move := [.begin (.addHandler typeId "alice"), .begin .newSession] ++ goes 1 ++
  goes 1 ++ .begin (.removeHandler typeId 0) :: goes 2

end Sample

/-- A session loses the only type that was on its list. -/
theorem leaves_nothing_outlives : ∃ y,
    (Switchboard.new .compiled .registered).run Sample.outlives = some y ∧
    (Switchboard.new .compiled .registered).OneByOne Sample.outlives ∧
    (Switchboard.new .compiled .registered).LeavesNothing Sample.outlives y ∧
    y.callers.length = 0 ∧ y.Holds Sample.session ∧
    y.listCalls 1 = [.subscribe Sample.session Sample.typeId] ∧
    y.listCalls 2 = [.unsubscribe Sample.session Sample.typeId] ∧ y.service.subscribed = [] := by
  have hapart : (Switchboard.new .compiled .registered).OneByOne Sample.outlives :=
    .cons rfl rfl <| .cons rfl rfl <| .cons (fun _ _ => rfl) rfl <| .cons trivial rfl <|
      .cons (fun _ _ => rfl) rfl <| .cons trivial rfl <| .cons rfl rfl <|
      .cons (fun _ _ => rfl) rfl <| .cons trivial rfl <| oneByOne_nil _
  exact ⟨_, rfl, hapart, leaves_nothing rfl hapart, rfl, rfl, rfl, rfl, rfl⟩

end Switchboard
end EventRelay
