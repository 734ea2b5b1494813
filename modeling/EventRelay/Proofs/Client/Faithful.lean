/-
# From what is published to what is handed over

The client is driven by one controller, and calls may fail before they reach the server, after
that, or on their way back.  Whatever happens in whichever order, over the whole run no event
is dispatched twice or out of order, and while no poll of a session fails the handlers of that
session miss nothing (`Conversation.faithful`).
-/

import EventRelay.Proofs.Client.Delivery

namespace EventRelay
namespace Conversation

variable {x x' : Conversation}

/-- What holds of a client and its server between any two moves. -/
structure Consistent (x : Conversation) : Prop where
  coupled : x.Coupled
  ahead : x.Ahead
  wanted : x.Wanted
  delivers : x.Delivers

namespace Consistent

theorem new {config : ServerConfig} {epoch : Epoch} {fingerprint : Fingerprint} {keys : KeyOrder}
    {retryDelay : Duration} (hx : Conversation.new config epoch fingerprint keys retryDelay = .ok x) :
    x.Consistent :=
  ⟨.new hx, .new hx, .new hx, .new hx⟩

theorem step (h : x.Consistent) {m : Move} (hx : x.step m = some x') : x'.Consistent where
  coupled := h.coupled.step hx
  ahead := h.ahead.step h.coupled hx
  wanted := h.wanted.step h.coupled hx
  delivers := h.delivers.step h.wanted h.coupled hx

/-- What a move publishes. -/
theorem published_step (h : x.Consistent) {m : Move} (hx : x.step m = some x') :
    x'.traffic.published = x.traffic.published ++
      (m.served?.bind fun m => m.event? x.traffic.published.length).toList := by
  have hs := h.coupled.accounted.sound
  cases goes_of_step h.coupled.numbers h.coupled.isUsers hx with
  | serves m t hm ht => exact Traffic.published_step hs ht
  | carries who fresh p r t hp hr hfree ht => exact Traffic.published_step hs ht
  | tends m x' hm ht =>
    rw [ht.traffic, hm]
    exact (List.append_nil _).symm
  | begins errand hready => exact (List.append_nil _).symm
  | stops => exact (List.append_nil _).symm
  | hears m errand p answer hm hp hfrom =>
    rw [hm]
    exact (List.append_nil _).symm

theorem run (h : x.Consistent) {ms : List Move} (hx : x.run ms = some x') :
    x'.Consistent ∧ x'.traffic.published = x.traffic.published ++
      EventRelay.Move.events x.traffic.published.length (ms.filterMap Move.served?) := by
  induction ms generalizing x with
  | nil =>
    cases hx
    exact ⟨h, (List.append_nil _).symm⟩
  | cons m ms ih =>
    obtain ⟨x₁, hstep, hrest⟩ := Option.bind_eq_some_iff.1 hx
    obtain ⟨hconsistent, hpublished⟩ := ih (h.step hstep) hrest
    refine ⟨hconsistent, ?_⟩
    rw [hpublished, h.published_step hstep, List.append_assoc]
    congr 1
    rw [List.filterMap_cons]
    cases hserved : m.served? with
    | none => simp
    | some m' =>
      cases he : m'.event? x.traffic.published.length with
      | none => simp [EventRelay.Move.events, he]
      | some e => simp [EventRelay.Move.events, he]

end Consistent

/-- What a run in which `events` were published says of what was dispatched in it. -/
structure Faithful (x : Conversation) (events : List Event) : Prop where
  genuine : ∀ e ∈ x.dispatched, e ∈ events
  /-- No event is dispatched twice, and none out of order. -/
  increasing : x.dispatched.Pairwise fun e e' => e.sequence < e'.sequence
  /-- A handler is handed what is dispatched, each event once and in order. -/
  received : ∀ n, (Episode.received n x.journal).Sublist x.dispatched
  /-- Each session that was taken up has one start, the last event when it was made. -/
  started : ∀ {id}, x.Granted id → ∃! start, ∃ k, .opened k id.source start ∈ x.traffic.told
  /-- Under a session of which no poll has failed, a handler that was there when it was taken
  up, and still is, was handed everything from there up to the last batch. -/
  complete : ∀ {id k start a}, .opened k id.source start ∈ x.traffic.told → x.Unfailed id →
    x.Keeps id a → Episode.handed id a.id x.journal =
      Event.stretch events a.typeId start (Episode.reached id start x.journal)

theorem faithful_of_consistent (h : x.Consistent) : x.Faithful x.traffic.published := by
  refine ⟨h.ahead.genuine, h.ahead.increasing, h.ahead.received, fun hid => ?_,
    fun ho hgood ha => h.delivers.handed hgood ho ha⟩
  obtain ⟨hs, hid⟩ := hid
  obtain ⟨-, ⟨k, start, ho⟩, -, -⟩ := h.coupled.granted hid
  refine ⟨start, ⟨k, ho⟩, fun start' ⟨k', ho'⟩ => ?_⟩
  cases h.coupled.accounted.opened.unique (Traffic.mem_openings.2 ho')
    (Traffic.mem_openings.2 ho) rfl
  rfl

/-- **Events are dispatched in order, and none is missed.** -/
theorem faithful (config : ServerConfig) (epoch : Epoch) (fingerprint : Fingerprint)
    (keys : KeyOrder) (retryDelay : Duration) :
    ((∃ x₀, Conversation.new config epoch fingerprint keys retryDelay = .ok x₀) ↔
        0 < config.bufferCapacity ∧ config.bufferCapacity ≤ Log.maxCapacity) ∧
      ∀ x₀, Conversation.new config epoch fingerprint keys retryDelay = .ok x₀ →
        ∀ ms x, x₀.run ms = some x →
          x.Faithful (EventRelay.Move.events 0 (ms.filterMap Move.served?)) := by
  refine ⟨exists_new_iff, fun x₀ hx₀ ms x hx => ?_⟩
  obtain ⟨hconsistent, hpublished⟩ := (Consistent.new hx₀).run hx
  have hstart : x₀.traffic.published = [] := by
    obtain ⟨t, ht, rfl⟩ := eq_of_new hx₀
    obtain ⟨log, -, rfl⟩ := Traffic.eq_of_new ht
    rfl
  rw [hstart, List.nil_append] at hpublished
  exact hpublished ▸ faithful_of_consistent hconsistent

/-! ### A run in which a batch is lost -/

namespace Sample

theorem other_lt : 8 < 1 <<< 128 := by decide

/-- A source beside that of `Traffic.Sample`. -/
def other : SourceId := ⟨⟨8, other_lt⟩⟩

/-- The controller takes up a session and subscribes the one type that is handled. -/
def opened (fresh : SourceId) (ticket : Nat) : List Move :=
  [.begin, .carry .controller fresh, .server (.resume ticket), .deliver .controller,
    .carry .controller fresh, .server (.resume (ticket + 1)), .deliver .controller]

/-- An event is published, and a poll of the controller consumes it. -/
def polled (ticket : Nat) : List Move :=
  [.server Traffic.Sample.publish, .begin, .carry .controller other, .server (.resume ticket),
    .server (.resume ticket), .server (.resume ticket), .server (.pass 1000000000),
    .server (.resume ticket)]

/-- A batch is dispatched, the next one is lost on its way back, and a second session takes the
place of the first. -/
def lost : List Move :=
  .add Traffic.Sample.typeId "alice" :: opened Traffic.Sample.source 0 ++
    polled 2 ++ [.deliver .controller] ++ polled 3 ++ [.fail .controller .invalidSession] ++
    opened other 4 ++ polled 6 ++ [.deliver .controller]

/-- A client of a server with the default configuration. -/
def play (ms : List Move) : Option Conversation :=
  (Conversation.new .default Traffic.Sample.epoch ServerConfig.default.fingerprint .registered
    ⟨1⟩).toOption.bind fun x => x.run ms

theorem run_of_play {ms : List Move} {x₀ x : Conversation}
    (hnew : Conversation.new .default Traffic.Sample.epoch ServerConfig.default.fingerprint
      .registered ⟨1⟩ = .ok x₀) (h : play ms = some x) : x₀.run ms = some x := by
  rw [play, hnew] at h
  exact h

end Sample

/-- The event that is lost is not dispatched later, and the one after it is. -/
theorem faithful_sample :
    0 < ServerConfig.default.bufferCapacity ∧
      ∃ x₀ x, Conversation.new .default Traffic.Sample.epoch ServerConfig.default.fingerprint
          .registered ⟨1⟩ = .ok x₀ ∧
        x₀.run Sample.lost = some x ∧ x.dispatched.map Event.sequence = [0, 2] ∧
        (Episode.handed ⟨Traffic.Sample.epoch, Sample.other⟩ 0 x.journal).map Event.sequence = [2] ∧
        x.Faithful (EventRelay.Move.events 0 (Sample.lost.filterMap Move.served?)) := by
  have hcapacity : 0 < ServerConfig.default.bufferCapacity := by decide
  have hrun : (Sample.play Sample.lost).map (fun x => (x.dispatched.map Event.sequence,
      (Episode.handed ⟨Traffic.Sample.epoch, Sample.other⟩ 0 x.journal).map Event.sequence)) =
        some ([0, 2], [2]) := by
    decide
  obtain ⟨x, hplay, hseen⟩ := Option.map_eq_some_iff.1 hrun
  obtain ⟨hdispatched, hhanded⟩ := Prod.mk.inj hseen
  obtain ⟨hexists, hall⟩ := faithful .default Traffic.Sample.epoch
    ServerConfig.default.fingerprint .registered ⟨1⟩
  obtain ⟨x₀, hnew⟩ := hexists.2 ⟨hcapacity, by decide⟩
  have hx := Sample.run_of_play hnew hplay
  exact ⟨hcapacity, x₀, x, hnew, hx, hdispatched, hhanded, hall x₀ hnew _ _ hx⟩

end Conversation
end EventRelay
