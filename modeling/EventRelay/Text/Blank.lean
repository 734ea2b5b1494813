/-
# White space

The 25 characters with the Unicode property `White_Space`.  A name made of them
alone counts as empty, and readers of settings and session ids drop them at both
ends.  `U+180E`, `U+200B` and `U+FEFF` are not among them.
-/

namespace EventRelay
namespace Text

/-- Unicode `White_Space`. -/
def isBlank (c : Char) : Bool :=
  let n := c.toNat
  (0x09 ≤ n && n ≤ 0x0D) || n == 0x20 || n == 0x85 || n == 0xA0 || n == 0x1680 ||
    (0x2000 ≤ n && n ≤ 0x200A) || n == 0x2028 || n == 0x2029 || n == 0x202F || n == 0x205F ||
    n == 0x3000

theorem isBlank_space : isBlank ' ' = true := by decide

/-- Every character that core counts as white space is blank. -/
theorem isBlank_of_isWhitespace {c : Char} (h : c.isWhitespace = true) : isBlank c = true := by
  simp only [Char.isWhitespace, Bool.or_eq_true, decide_eq_true_eq] at h
  rcases h with ((rfl | rfl) | rfl) | rfl <;> decide

/-- The end of a list after its longest tail of characters satisfying `p` is gone. -/
def dropTail (p : Char → Bool) (cs : List Char) : List Char :=
  (cs.reverse.dropWhile p).reverse

/-- A list without the blanks at its two ends. -/
def trimChars (cs : List Char) : List Char :=
  dropTail isBlank (cs.dropWhile isBlank)

/-- A text without the blanks at its two ends. -/
def trim (s : String) : String := String.ofList (trimChars s.toList)

/-- Whether nothing is left of a text once it is trimmed. -/
def isBlankText (s : String) : Bool := s.toList.all isBlank

@[simp] theorem dropTail_nil (p : Char → Bool) : dropTail p [] = [] := rfl

theorem dropTail_append_singleton_neg {p : Char → Bool} {cs : List Char} {c : Char}
    (h : p c = false) : dropTail p (cs ++ [c]) = cs ++ [c] := by
  simp [dropTail, h]

theorem dropWhile_isBlank_eq_nil_iff {cs : List Char} :
    cs.dropWhile isBlank = [] ↔ ∀ c ∈ cs, isBlank c = true := by
  induction cs with
  | nil => simp
  | cons c r ih => by_cases h : isBlank c = true <;> simp [h, ih]

theorem trimChars_eq_nil_iff {cs : List Char} : trimChars cs = [] ↔ ∀ c ∈ cs, isBlank c = true := by
  induction cs with
  | nil => simp [trimChars]
  | cons c r ih =>
    by_cases h : isBlank c = true
    · simp only [trimChars, List.dropWhile_cons_of_pos h, List.mem_cons, forall_eq_or_imp, h,
        true_and]
      exact ih
    · have hc : ¬ ∀ d ∈ c :: r, isBlank d = true := fun hd => h (hd c (by simp))
      simp only [hc, iff_false, trimChars, List.dropWhile_cons_of_neg h, dropTail]
      intro h0
      have h1 := List.reverse_eq_nil_iff.1 h0
      rw [dropWhile_isBlank_eq_nil_iff] at h1
      exact h (h1 c (by simp))

/-- **A text is blank exactly when trimming leaves nothing.** -/
theorem isBlankText_iff_trim {s : String} : isBlankText s = true ↔ trim s = "" := by
  have h : trim s = "" ↔ trimChars s.toList = [] := by
    rw [trim, show ("" : String) = String.ofList [] from rfl, String.ofList_inj]
  rw [h, trimChars_eq_nil_iff]
  simp [isBlankText]

end Text
end EventRelay
