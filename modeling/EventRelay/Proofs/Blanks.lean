/-
# What trimming leaves

`Text.trimChars_eq_iff` says what is left of a text without the blanks at its two ends: the one
stretch of it that has blanks only around it and neither begins nor ends with a blank.
-/

import EventRelay.Text.Blank
import Mathlib.Data.List.TakeWhile

namespace EventRelay
namespace Text

/-- `rest` is what is left of a text: around it are blanks, and none at its ends. -/
structure Trimmed (cs rest : List Char) : Prop where
  around : ∃ front back, cs = front ++ rest ++ back ∧ (∀ c ∈ front, isBlank c = true) ∧
    ∀ c ∈ back, isBlank c = true
  first : ∀ c, rest.head? = some c → isBlank c = false
  last : ∀ c, rest.getLast? = some c → isBlank c = false

variable {cs rest : List Char}

/-- The blanks in front of a text go, and none that come later. -/
theorem dropWhile_isBlank_append {front : List Char} (hfront : ∀ c ∈ front, isBlank c = true)
    (hrest : ∀ c, rest.head? = some c → isBlank c = false) :
    (front ++ rest).dropWhile isBlank = rest := by
  rw [List.dropWhile_append_of_pos hfront]
  cases rest with
  | nil => rfl
  | cons c rest => exact List.dropWhile_cons_of_neg (by simp [hrest c rfl])

/-- The blanks behind a text go, and none that come earlier. -/
theorem dropTail_isBlank_append {back : List Char} (hback : ∀ c ∈ back, isBlank c = true)
    (hrest : ∀ c, rest.getLast? = some c → isBlank c = false) :
    dropTail isBlank (rest ++ back) = rest := by
  rw [dropTail, List.reverse_append,
    dropWhile_isBlank_append (fun c hc => hback c (List.mem_reverse.1 hc))
      fun c hc => hrest c (List.head?_reverse ▸ hc), List.reverse_reverse]

/-- **Trimming takes off the blanks at both ends and nothing else.** -/
theorem trimmed_trimChars (cs : List Char) : Trimmed cs (trimChars cs) := by
  have htail (ds : List Char) :
      ds = dropTail isBlank ds ++ (ds.reverse.takeWhile isBlank).reverse := by
    rw [dropTail, ← List.reverse_append, List.takeWhile_append_dropWhile, List.reverse_reverse]
  have hhead (ds : List Char) (c : Char) (hc : (ds.dropWhile isBlank).head? = some c) :
      isBlank c = false := by
    obtain ⟨rest, hrest⟩ := List.head?_eq_some_iff.1 hc
    have hnot := List.head_dropWhile_not isBlank (l := ds) (by rw [hrest]; simp)
    simpa [hrest] using hnot
  refine ⟨⟨cs.takeWhile isBlank, ((cs.dropWhile isBlank).reverse.takeWhile isBlank).reverse, ?_,
    fun c hc => List.mem_takeWhile_imp hc,
    fun c hc => List.mem_takeWhile_imp (List.mem_reverse.1 hc)⟩, fun c hc => ?_, fun c hc => ?_⟩
  · rw [List.append_assoc, trimChars, ← htail, List.takeWhile_append_dropWhile]
  · have hfront : (cs.dropWhile isBlank).head? = some c := by
      rw [htail (cs.dropWhile isBlank), List.head?_append, ← trimChars, hc, Option.some_or]
    exact hhead cs c hfront
  · rw [trimChars, dropTail, List.getLast?_reverse] at hc
    exact hhead _ c hc

/-- **What trimming leaves.** -/
theorem trimChars_eq_iff : trimChars cs = rest ↔ Trimmed cs rest := by
  refine ⟨fun h => h ▸ trimmed_trimChars cs, fun h => ?_⟩
  obtain ⟨front, back, rfl, hfront, hback⟩ := h.around
  cases rest with
  | nil =>
    rw [trimChars_eq_nil_iff, List.append_nil]
    exact List.forall_mem_append.2 ⟨hfront, hback⟩
  | cons c rest =>
    rw [trimChars, List.append_assoc,
      dropWhile_isBlank_append hfront fun d hd => h.first d (by simpa using hd),
      dropTail_isBlank_append hback h.last]

/-- Blanks around a text without any are dropped. -/
theorem trimChars_append {front back : List Char} (hfront : ∀ c ∈ front, isBlank c = true)
    (hback : ∀ c ∈ back, isBlank c = true) (hcs : ∀ c ∈ cs, isBlank c = false) :
    trimChars (front ++ cs ++ back) = cs :=
  trimChars_eq_iff.2 ⟨⟨front, back, rfl, hfront, hback⟩,
    fun c hc => hcs c (List.mem_of_mem_head? hc), fun c hc => hcs c (List.mem_of_getLast? hc)⟩

end Text
end EventRelay
