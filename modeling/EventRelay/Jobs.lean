/-
# Jobs

Some of what a world is asked to do takes time.  The world then gives a ticket, and some
time later a result under that ticket.  A job is such a ticket, or a result that is there
already.  Jobs are waited for at once, or kept under a name and waited for later; whoever
takes a job from its name is the only one to have it.
-/

import EventRelay.Timeline

namespace EventRelay

/-- Worlds that work on things for a while. -/
class Working (σ : Type) (ρ : outParam Type) extends Timeline σ where
  /-- The result of a ticket, and the instant at which it was there. -/
  result? : σ → Nat → Option (Nat × ρ)
  /-- The world, no longer working on a ticket. -/
  cancel : Nat → σ → σ

/-- Something that a world works on. -/
inductive Job (ρ : Type) where
  /-- There is a result since an instant. -/
  | «over» (instant : Nat) (result : ρ)
  | out (ticket : Nat)
  deriving Repr

namespace Job

variable {σ ρ : Type} [Working σ ρ]

/-- The result of a job, once there is one. -/
def result? (s : σ) : Job ρ → Option (Nat × ρ)
  | .«over» instant result => some (instant, result)
  | out ticket => Working.result? s ticket

/-- Whether a job has its result. -/
def isOver (s : σ) (j : Job ρ) : Bool := (j.result? s).isSome

/-- The world without a job; a job that is over stays as it is. -/
def giveUp (s : σ) (j : Job ρ) : σ :=
  match j, j.isOver s with
  | out ticket, false => Working.cancel ticket s
  | _, _ => s

/-- Waits for a job for some nanoseconds at most; one that is not over by then is given up. -/
def wait (nanos : Nat) (s : σ) (j : Job ρ) : σ × Option (Nat × ρ) :=
  if j.isOver s then (s, j.result? s)
  else
    let s := Timeline.await (j.isOver ·) nanos (Timeline.settle s)
    (j.giveUp s, j.result? s)

/-- A job that is over is not waited for. -/
theorem wait_of_isOver {s : σ} {j : Job ρ} (h : j.isOver s = true) (nanos : Nat) :
    j.wait nanos s = (s, j.result? s) := by
  simp [wait, h]

end Job

/-- Jobs under names. -/
abbrev Jobs (ρ : Type) := List (String × Job ρ)

namespace Jobs

variable {ρ : Type}

/-- The jobs without the one of a name. -/
def without (js : Jobs ρ) (name : String) : Jobs ρ := js.filter (·.1 ≠ name)

/-- Keeps a job under a name, in place of the one that had it. -/
def keep (js : Jobs ρ) (name : String) (j : Job ρ) : Jobs ρ := (name, j) :: js.without name

/-- **A job that was taken away is not found again.** -/
theorem lookup_without (js : Jobs ρ) (name : String) : (js.without name).lookup name = none := by
  induction js with
  | nil => rfl
  | cons j rest ih =>
    obtain ⟨n, j⟩ := j
    by_cases h : n = name
    · simpa [without, h] using ih
    · have : (name == n) = false := by simpa using Ne.symm h
      simpa [without, h, List.lookup_cons, this] using ih

theorem lookup_keep (js : Jobs ρ) (name : String) (j : Job ρ) :
    (js.keep name j).lookup name = some j := by
  simp [keep]

end Jobs
end EventRelay
