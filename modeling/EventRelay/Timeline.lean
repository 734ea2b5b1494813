/-
# Worlds on a clock

A world holds things that wait, each until an instant or until something else happens.
Its clock stands still while anything can happen at the present instant, and then jumps
to the next instant at which something is due.  `Timeline.run` is that clock: it passes
every due instant up to a limit, one after the other, and stops early once a condition
holds.
-/

namespace EventRelay

/-- Worlds with a clock in nanoseconds. -/
class Timeline (σ : Type) where
  /-- The present instant. -/
  now : σ → Nat
  /-- The next instant at which something that waits is due. -/
  nextDue? : σ → Option Nat
  /-- The world at a later instant, after everything that is due then has happened. -/
  settleAt : Nat → σ → σ

namespace Timeline

variable {σ : Type} [Timeline σ]

/-- The world once `done` holds, or at `limit`; `t` is the present instant. -/
def run (done : σ → Bool) (limit t : Nat) (s : σ) : σ :=
  if done s then s
  else
    match nextDue? s with
    | some d => if t < d ∧ d ≤ limit then run done limit d (settleAt d s) else settleAt limit s
    | none => settleAt limit s
termination_by limit - t

/-- The world after everything that can happen at the present instant has happened. -/
def settle (s : σ) : σ := settleAt (now s) s

/-- The world a while later. -/
def sleep (nanos : Nat) (s : σ) : σ := run (fun _ => false) (now s + nanos) (now s) s

/-- The world once `done` holds, or a while later. -/
def await (done : σ → Bool) (nanos : Nat) (s : σ) : σ := run done (now s + nanos) (now s) s

end Timeline

/-- The earlier of two instants, where either may be missing. -/
def earlier? : Option Nat → Option Nat → Option Nat
  | some a, some b => some (min a b)
  | some a, none => some a
  | none, b => b

/-- The earliest of some instants. -/
def earliest? (ds : List Nat) : Option Nat := ds.foldl (fun acc d => earlier? acc (some d)) none

end EventRelay
