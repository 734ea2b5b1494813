/-
# Calls over a link that is up

A link that is up brings a call to the server as the request that it stands for
(`Call.request?`), and every call but a poll comes back with what the server's answer says to
it (`Call.answer?`).
-/

import EventRelay.Client.Conversation
import EventRelay.Client.Link
import EventRelay.Proofs.Server.Uninterrupted

namespace EventRelay
namespace Link

variable {l : Link} {c : Call} {r : Server.Request}

/-- **A call does to the server what its request does.** -/
theorem server_call (hup : l.isUp = true) (ticket : Nat)
    (hr : c.request? ⟨l.host.freshUuid⟩ = some r) :
    (l.call ticket c).1.host.server = (l.host.server.serve l.host.ticket r).1 := by
  unfold call
  rw [if_pos hup]
  cases c with
  | openSession | closeSession | subscribe | unsubscribe =>
    cases hr
    rfl
  | poll session =>
    cases hr
    simp only [Host.poll, Server.serve]
    obtain ⟨s, _ | _⟩ := l.host.server.beginPoll l.host.ticket (some session) <;> rfl
  | publish | probe => cases hr

/-- **What is answered at once is what the server answers.** -/
theorem answer_call (hup : l.isUp = true) (ticket : Nat)
    (hr : c.request? ⟨l.host.freshUuid⟩ = some r) (hc : ∀ id, c ≠ .poll id)
    {answer : Outcome Served}
    (hanswer : (l.host.server.serve l.host.ticket r).2 = .answered answer) :
    (l.call ticket c).2 = c.answer? answer := by
  unfold call
  rw [if_pos hup]
  cases c with
  | openSession current =>
    cases hr
    simp only [Host.openSession, Server.serve] at hanswer ⊢
    generalize l.host.server.openSession ⟨l.host.freshUuid⟩ current = result at hanswer ⊢
    obtain ⟨s, _ | _⟩ := result <;> cases hanswer <;> rfl
  | closeSession session =>
    cases hr
    simp only [Host.closeSession, Server.serve] at hanswer ⊢
    generalize l.host.server.closeSession (some session) = result at hanswer ⊢
    obtain ⟨s, _ | _⟩ := result <;> cases hanswer <;> rfl
  | subscribe session t =>
    cases hr
    simp only [Host.subscribe, Server.serve] at hanswer ⊢
    generalize l.host.server.subscribe (some session) t = result at hanswer ⊢
    obtain ⟨s, _ | _⟩ := result <;> cases hanswer <;> rfl
  | unsubscribe session t =>
    cases hr
    simp only [Host.unsubscribe, Server.serve] at hanswer ⊢
    generalize l.host.server.unsubscribe (some session) t = result at hanswer ⊢
    obtain ⟨s, _ | _⟩ := result <;> cases hanswer <;> rfl
  | poll session => exact absurd rfl (hc session)
  | publish | probe => cases hr

end Link
end EventRelay
