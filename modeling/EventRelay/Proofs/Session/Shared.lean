/-
# One session in two registries

Two registries are compared that have one session in common, but for the tickets in its queue: a
ticket `k` in one of them is the ticket `σ k` in the other one (`Registry.Shares`).  Whatever is
done to that session on either side does the same on both and says the same, however the other
sessions stand.
-/

import EventRelay.Proofs.Session.Apart
import Mathlib.Logic.Function.Basic

namespace EventRelay

/-- A session with other tickets in its queue. -/
def Entry.renamed (σ : Nat → Nat) (e : Entry) : Entry := { e with queue := e.queue.map σ }

@[simp] theorem Entry.isPolling_renamed (σ : Nat → Nat) (e : Entry) :
    (e.renamed σ).isPolling = e.isPolling := by
  simp [isPolling, renamed]

theorem Entry.renamed_congr {σ τ : Nat → Nat} {e : Entry} (h : ∀ j ∈ e.queue, σ j = τ j) :
    e.renamed σ = e.renamed τ := by
  rw [renamed, List.map_congr_left h]
  rfl

theorem Entry.holds_renamed {σ : Nat → Nat} (h : σ.Injective) (k : Nat) (e : Entry) :
    (e.renamed σ).holds (σ k) = e.holds k := by
  simp only [holds, renamed]
  cases hqueue : e.queue with
  | nil => rfl
  | cons j queue =>
    rw [Bool.eq_iff_iff]
    simp only [List.map_cons, List.head?_cons, beq_iff_eq, Option.some.injEq]
    exact h.eq_iff

namespace Registry

/-- Whether the session of a source is the same in two registries, but for the tickets. -/
structure Shares (σ : Nat → Nat) (u : SourceId) (r r' : Registry) : Prop where
  ttl : r'.ttl = r.ttl
  entry : r'.entry? u = (r.entry? u).map (Entry.renamed σ)

namespace Shares

variable {σ : Nat → Nat} {u : SourceId} {r r' : Registry}

theorem of_eq (h : r.Shares σ u r') {r₁ r₁' : Registry} (httl : r₁.ttl = r.ttl)
    (httl' : r₁'.ttl = r'.ttl) (hentry : r₁.entry? u = r.entry? u)
    (hentry' : r₁'.entry? u = r'.entry? u) : r₁.Shares σ u r₁' :=
  ⟨httl'.trans (h.ttl.trans httl.symm), by rw [hentry', h.entry, hentry]⟩

/-- Only the tickets in the queue matter. -/
theorem congr {τ : Nat → Nat} (h : r.Shares σ u r')
    (hτ : ∀ e, r.entry? u = some e → ∀ j ∈ e.queue, σ j = τ j) : r.Shares τ u r' := by
  refine ⟨h.ttl, ?_⟩
  rw [h.entry]
  cases he : r.entry? u with
  | none => rfl
  | some e => exact congrArg some (Entry.renamed_congr (hτ e he))

theorem live_eq (h : r.Shares σ u r') : r'.live? u = (r.live? u).map (Entry.renamed σ) := by
  rw [live?, h.entry, live?]
  cases r.entry? u with
  | none => rfl
  | some e =>
    have hlisted : (e.renamed σ).listed = e.listed := rfl
    cases hl : e.listed <;> simp [Option.filter, hlisted, hl]

theorem isStale_eq (h : r.Shares σ u r') (now : Nat) (e : Entry) :
    r'.isStale now (e.renamed σ) = r.isStale now e := by
  rw [isStale, h.ttl]
  rfl

theorem wants_eq (h : r.Shares σ u r') (t : TypeId) : r'.wants u t = r.wants u t := by
  rw [wants, h.entry, wants]
  cases r.entry? u <;> rfl

/-- What is done to the session on either side does the same on both. -/
theorem modify (h : r.Shares σ u r') {f g : Entry → Entry}
    (hf : ∀ e, (f e).session.source = e.session.source)
    (hg : ∀ e, (g e).session.source = e.session.source)
    (hfg : ∀ e, r.entry? u = some e → g (e.renamed σ) = (f e).renamed σ) :
    (r.modify u f).Shares σ u (r'.modify u g) := by
  refine ⟨h.ttl, ?_⟩
  rw [entry_modify hf, entry_modify hg, if_pos rfl, if_pos rfl, h.entry]
  cases he : r.entry? u with
  | none => rfl
  | some e => exact congrArg some (hfg e he)

theorem modify_same (h : r.Shares σ u r') {f : Entry → Entry}
    (hf : ∀ e, (f e).session.source = e.session.source)
    (hcomm : ∀ e, f (e.renamed σ) = (f e).renamed σ) :
    (r.modify u f).Shares σ u (r'.modify u f) :=
  h.modify hf hf fun e _ => hcomm e

theorem modifySession (h : r.Shares σ u r') {f : Session → Session}
    (hf : ∀ s, (f s).source = s.source) :
    (r.modifySession u f).Shares σ u (r'.modifySession u f) :=
  h.modify_same (fun e => hf e.session) fun _ => rfl

theorem glance (h : r.Shares σ u r') (now : Nat) :
    (r'.glance now u).2 = (r.glance now u).2 ∧
      (r.glance now u).1.Shares σ u (r'.glance now u).1 := by
  simp only [Registry.glance, h.live_eq]
  cases r.live? u with
  | none => exact ⟨rfl, h⟩
  | some e =>
    simp only [Option.map_some, h.isStale_eq]
    cases r.isStale now e with
    | true => exact ⟨rfl, h⟩
    | false => exact ⟨rfl, h.modify_same (fun _ => rfl) fun _ => rfl⟩

theorem retire (h : r.Shares σ u r') (hr : r.Settled) (hr' : r'.Settled) (event : SessionEvent) :
    (r'.retire u event).2 = (r.retire u event).2 ∧
      (r.retire u event).1.Shares σ u (r'.retire u event).1 := by
  have hlive := h.live_eq
  cases he : r.live? u with
  | none =>
    rw [he] at hlive
    rw [retire_of_not_live he, retire_of_not_live hlive]
    exact ⟨rfl, h⟩
  | some e =>
    rw [he] at hlive
    have hended := h.modify_same (f := Entry.retire) (fun _ => rfl) fun _ => rfl
    rw [retire_of_live hr he, retire_of_live hr' hlive]
    exact ⟨rfl, hended.ttl, hended.entry⟩

theorem expire (h : r.Shares σ u r') (hr : r.Settled) (hr' : r'.Settled) (now : Nat) :
    (r.expire now u).Shares σ u (r'.expire now u) := by
  simp only [Registry.expire, h.live_eq]
  cases r.live? u with
  | none => exact h
  | some e =>
    simp only [Option.map_some, h.isStale_eq]
    split
    · exact (h.retire hr hr' _).2
    · exact h

theorem enlist (h : r.Shares σ u r') {e : Entry} (hqueue : e.queue = []) :
    (r.enlist e).Shares σ u (r'.enlist e) := by
  have hsame : e.renamed σ = e := by
    rw [Entry.renamed, hqueue, List.map_nil, ← hqueue]
  refine ⟨h.ttl, ?_⟩
  rw [entry_enlist, entry_enlist, h.entry]
  cases r.entry? u with
  | some e' => rfl
  | none =>
    by_cases hu : e.session.source = u
    · simp [hu, hsame]
    · simp [hu]

theorem sweep (h : r.Shares σ u r') (hr : r.Settled) (hr' : r'.Settled) (hsources : r.sources.Nodup)
    (hsources' : r'.sources.Nodup) (now : Nat) :
    (r.sweep now).1.Shares σ u (r'.sweep now).1 := by
  refine ⟨?_, ?_⟩
  · rw [(tells_sweep hr' hsources' now).1.ttl, (tells_sweep hr hsources now).1.ttl, h.ttl]
  · rw [entry_sweep hr hsources, entry_sweep hr' hsources', h.entry]
    cases r.entry? u with
    | none => rfl
    | some e =>
      have hsweepable : r'.isSweepable now (e.renamed σ) = r.isSweepable now e := by
        rw [isSweepable, h.isStale_eq, Entry.isPolling_renamed]
        rfl
      simp only [Option.map_some, hsweepable]
      split <;> rfl

/-- A poll queues up, with one ticket or the other. -/
theorem enqueue (h : r.Shares σ u r') (k : Nat) :
    (r.enqueue u k).Shares σ u (r'.enqueue u (σ k)) :=
  h.modify (fun _ => rfl) (fun _ => rfl) fun e _ => by simp [Entry.renamed]

/-- A poll leaves the queue. -/
theorem release (h : r.Shares σ u r') (hσ : σ.Injective) (k : Nat) :
    (r.release u k).Shares σ u (r'.release u (σ k)) := by
  refine h.modify (fun _ => rfl) (fun _ => rfl) fun e _ => ?_
  have hfilter : (e.queue.map σ).filter (· ≠ σ k) = (e.queue.filter (· ≠ k)).map σ := by
    rw [List.filter_map]
    refine congrArg _ (List.filter_congr fun j _ => ?_)
    simp only [Function.comp_apply, ne_eq, hσ.eq_iff]
  simp only [Entry.renamed, hfilter]

theorem holds_eq (h : r.Shares σ u r') (hσ : σ.Injective) (k : Nat) :
    r'.holds u (σ k) = r.holds u k := by
  rw [Registry.holds, h.entry, Registry.holds]
  cases r.entry? u with
  | none => rfl
  | some e => exact Entry.holds_renamed hσ k e

end Shares
end Registry
end EventRelay
