/-
# Where a server of the web can come to

`Api.Reached` holds of the states of a server of the web from its start on: it is sent requests of
any kind, time passes, and callers hang up.  In all of them the log holds what was published, and a
session is ended exactly if it is off the list (`Api.Reached.coherent`).
-/

import EventRelay.Http.Api
import EventRelay.Proofs.Server.Coherent

namespace EventRelay
namespace Api

/-- A server of the web that was started, whatever has happened since. -/
inductive Reached : Api → Prop where
  | starts {config : ServerConfig} {epoch : Epoch} {origin : Nat} {h : Host}
      (hnew : Host.new config epoch origin = .ok h) (origins : List String) :
      Reached (.new h origins)
  /-- A sweeper is started beside it. -/
  | sweeps {a : Api} (ha : Reached a) (interval : Duration) :
      Reached { a with host := (a.host.startSweeper interval).1 }
  | handles {a : Api} (ha : Reached a) (r : Request) : Reached (a.handle r).1
  /-- Time passes, and what is due happens. -/
  | passes {a : Api} (ha : Reached a) (t : Nat) : Reached (Timeline.settleAt t a)
  | cancels {a : Api} (ha : Reached a) (ticket : Nat) : Reached (a.cancel ticket)

/-- A change of a subscription keeps what the change itself keeps. -/
theorem coherent_changeSubscription {h : Host} (hs : h.server.Coherent) (raw : List Char)
    {change : Host → TypeId → Host × Outcome Bool}
    (hchange : ∀ t, (change h t).1.server.Coherent) :
    (changeSubscription raw h change).1.server.Coherent := by
  unfold changeSubscription
  split
  · exact hs
  · exact hchange _

theorem coherent_perform {h : Host} (hs : h.server.Coherent) (r : Request) (demand : Demand) :
    (perform h r demand).1.server.Coherent := by
  cases demand with
  | health | probe | poll => exact hs
  | openSession => exact hs.openSession _ _
  | closeSession => exact hs.closeSession _
  | subscribe raw => exact coherent_changeSubscription hs raw fun t => hs.subscribe _ t
  | unsubscribe raw => exact coherent_changeSubscription hs raw fun t => hs.unsubscribe _ t
  | publish =>
    simp only [perform]
    cases readBody (α := PublishRequest) r with
    | error rejection => exact hs
    | ok event => exact hs.publish _ _ _

variable {a : Api}

theorem coherent_identify (hs : a.host.server.Coherent) (r : Request) :
    (a.identify r).1.host.server.Coherent := by
  unfold identify
  split <;> exact hs

theorem coherent_route (hs : a.host.server.Coherent) (e : Exchange) :
    (a.route e).1.host.server.Coherent := by
  unfold route
  split
  · exact hs
  · split
    · exact hs
    · exact Host.coherent_poll hs _
    · exact coherent_perform hs _ _

/-- **A request keeps a server coherent**, whatever it asks and however it is answered. -/
theorem coherent_handle (hs : a.host.server.Coherent) (r : Request) :
    (a.handle r).1.host.server.Coherent := by
  unfold handle
  split
  · exact hs
  · split
    · exact hs
    · exact coherent_route (coherent_identify hs r) _

/-- **Every state that a server of the web comes to is coherent.** -/
theorem Reached.coherent (ha : a.Reached) : a.host.server.Coherent := by
  induction ha with
  | @starts config epoch origin h hnew origins =>
    unfold Host.new at hnew
    cases hserver : Server.new config epoch with
    | error fault =>
      rw [hserver] at hnew
      cases hnew
    | ok s =>
      rw [hserver] at hnew
      cases hnew
      exact .new hserver
  | sweeps _ _ ih => exact ih
  | handles _ r ih => exact coherent_handle ih r
  | passes _ t ih => exact Host.coherent_settleAt ih t
  | cancels _ ticket ih => exact ih.dropPoll ticket

end Api
end EventRelay
