/-
# Things found by their tickets

Requests and polls are kept in lists and found by the tickets they were given.  No two have
one ticket, so what is in such a list and what is found there are the same.
-/

import Mathlib.Data.List.Nodup
import Mathlib.Data.List.Pairwise

namespace EventRelay
namespace Tickets

variable {α : Type} {l : List (Nat × α)} {k : Nat} {a b : α}

theorem mem_of_lookup (h : l.lookup k = some a) : (k, a) ∈ l := by
  obtain ⟨before, after, rfl, -⟩ := List.lookup_eq_some_iff.1 h
  simp

theorem not_mem_of_lookup (h : l.lookup k = none) : k ∉ l.map Prod.fst := by
  intro hk
  obtain ⟨⟨k', a⟩, hmem, rfl⟩ := List.mem_map.1 hk
  have := List.lookup_eq_none_iff.1 h _ hmem
  simp at this

theorem unique (h : (l.map Prod.fst).Nodup) (ha : (k, a) ∈ l) (hb : (k, b) ∈ l) : a = b := by
  have := List.inj_on_of_nodup_map h ha hb rfl
  exact (Prod.mk.inj this).2

theorem lookup_of_mem (h : (l.map Prod.fst).Nodup) (ha : (k, a) ∈ l) : l.lookup k = some a := by
  cases hb : l.lookup k with
  | none => exact absurd (List.mem_map_of_mem ha) (not_mem_of_lookup hb)
  | some b => rw [unique h ha (mem_of_lookup hb)]

/-- The tickets that are left when one is taken out. -/
theorem map_fst_without (l : List (Nat × α)) (k : Nat) :
    (l.filter fun q => q.1 ≠ k).map Prod.fst = (l.map Prod.fst).filter (· ≠ k) := by
  rw [List.filter_map]
  rfl

theorem mem_without {q : Nat × α} : q ∈ l.filter (fun q => q.1 ≠ k) ↔ q ∈ l ∧ q.1 ≠ k := by
  simp

/-- Taking one ticket out does not touch another. -/
theorem lookup_without (l : List (Nat × α)) {j : Nat} (hj : j ≠ k) :
    (l.filter fun q => q.1 ≠ k).lookup j = l.lookup j := by
  induction l with
  | nil => rfl
  | cons q l ih =>
    obtain ⟨k', a⟩ := q
    by_cases hk : k' = k
    · subst hk
      have hne : (j == k') = false := by simpa using hj
      simpa [List.lookup_cons, hne] using ih
    · simp only [List.filter_cons, hk, ne_eq, not_false_eq_true, decide_true, if_true,
        List.lookup_cons] at ih ⊢
      rw [ih]

/-- One ticket is taken out. -/
theorem lookup_filter (l : List (Nat × α)) (k j : Nat) :
    (l.filter fun q => q.1 ≠ k).lookup j = if j = k then none else l.lookup j := by
  split
  · rename_i hj
    exact List.lookup_eq_none_iff.2 fun q hq => by simpa [hj] using (mem_without.1 hq).2.symm
  · rename_i hj
    exact lookup_without l hj

/-- A new ticket is put at the end. -/
theorem lookup_concat (hk : l.lookup k = none) (a : α) (j : Nat) :
    (l ++ [(k, a)]).lookup j = if j = k then some a else l.lookup j := by
  rw [List.lookup_append]
  by_cases hj : j = k
  · simp [hj, hk]
  · have hne : (j == k) = false := by simpa using hj
    simp [hj, List.lookup_cons, hne]

section

variable {β : Type} {g : α → Option β}

theorem mem_filterMap {q : Nat × β} :
    q ∈ l.filterMap (fun p => (g p.2).map (p.1, ·)) ↔ ∃ a, (q.1, a) ∈ l ∧ g a = some q.2 := by
  obtain ⟨j, b⟩ := q
  simp only [List.mem_filterMap, Option.map_eq_some_iff, Prod.exists, Prod.mk.injEq]
  constructor
  · rintro ⟨j', a, hmem, b', hb, rfl, rfl⟩
    exact ⟨a, hmem, hb⟩
  · rintro ⟨a, hmem, hb⟩
    exact ⟨j, a, hmem, b, hb, rfl, rfl⟩

/-- What is left keeps its ticket. -/
theorem keys_filterMap (l : List (Nat × α)) (g : α → Option β) :
    ((l.filterMap fun p => (g p.2).map (p.1, ·)).map Prod.fst).Sublist (l.map Prod.fst) := by
  induction l with
  | nil => simp
  | cons p l ih =>
    cases hp : g p.2 with
    | none => simpa [hp] using ih.cons p.1
    | some b => simpa [hp] using ih.cons_cons p.1

/-- What becomes of everything that has a ticket, some of it going. -/
theorem lookup_filterMap (h : (l.map Prod.fst).Nodup) (g : α → Option β) (k : Nat) :
    (l.filterMap fun p => (g p.2).map (p.1, ·)).lookup k = (l.lookup k).bind g := by
  have hnodup := h.sublist (keys_filterMap l g)
  cases ha : l.lookup k with
  | none =>
    refine List.lookup_eq_none_iff.2 fun q hq => ?_
    obtain ⟨a, hmem, -⟩ := mem_filterMap.1 hq
    exact List.lookup_eq_none_iff.1 ha _ hmem
  | some a =>
    cases hb : g a with
    | some b => simpa [hb] using lookup_of_mem hnodup (mem_filterMap.2 ⟨a, mem_of_lookup ha, hb⟩)
    | none =>
      simp only [Option.bind_some, hb]
      refine List.lookup_eq_none_iff.2 fun q hq => ?_
      obtain ⟨a', hmem, ha'⟩ := mem_filterMap.1 hq
      by_contra hk
      obtain rfl : k = q.1 := by simpa using hk
      rw [unique h hmem (mem_of_lookup ha), hb] at ha'
      cases ha'

end

/-- Whoever gives the same element to a list without repetitions is the same. -/
theorem unique_of_filterMap {β γ : Type} {f : β → Option γ} {bs : List β}
    (h : (bs.filterMap f).Nodup) {b b' : β} (hb : b ∈ bs) (hb' : b' ∈ bs) {c : γ}
    (hc : f b = some c) (hc' : f b' = some c) : b = b' := by
  by_contra hne
  have hsymm : Std.Symm fun x y : β => ∀ v, f x = some v → ∀ w, f y = some w → v ≠ w :=
    ⟨fun x y hxy v hv w hw => (hxy w hw v hv).symm⟩
  exact (List.pairwise_filterMap.1 h).forall hb hb' hne c hc c hc' rfl

end Tickets
end EventRelay
