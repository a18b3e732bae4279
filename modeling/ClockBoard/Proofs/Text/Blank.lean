import Mathlib.Data.List.Basic
import ClockBoard.Text.Blank

/-!
What trimming takes off a text. A text is split into the blanks at its ends and what is between
them, and there is one such split only, if there is anything in between.
-/

namespace ClockBoard.Text

/-! ## Dropping while a condition holds -/

theorem dropWhile_off {condition : Char → Bool} {rest : List Char}
    (head : ∀ char, rest.head? = some char → condition char = false) :
    rest.takeWhile condition = [] ∧ rest.dropWhile condition = rest := by
  cases rest with
  | nil => exact ⟨rfl, rfl⟩
  | cons char others => simp [head char rfl]

theorem head_dropWhile (condition : Char → Bool) (text : List Char) :
    ∀ char, (text.dropWhile condition).head? = some char → condition char = false := by
  intro char first
  have off := List.head?_dropWhile_not condition text
  rw [first] at off
  exact off

/-! ## Blanks at the ends -/

theorem isBlank_of_between {char : Char} (above : 0x20 < char.toNat) (below : char.toNat < 0x85) :
    isBlank char = false := by
  simp only [isBlank, blankRanges, List.any_cons, List.any_nil, Bool.or_eq_false_iff,
    Bool.and_eq_false_iff, decide_eq_false_iff_not, and_true]
  omega

theorem trimEnd_append {text trailing : List Char}
    (last : ∀ char, text.getLast? = some char → isBlank char = false)
    (blank : ∀ char ∈ trailing, isBlank char = true) :
    trimEnd (text ++ trailing) = text := by
  have head : ∀ char, text.reverse.head? = some char → isBlank char = false := by
    simpa using last
  have dropped : ∀ char ∈ trailing.reverse, isBlank char = true := by
    simpa using blank
  rw [trimEnd, dropEndWhile, List.reverse_append, List.dropWhile_append_of_pos dropped,
    (dropWhile_off head).2, List.reverse_reverse]

theorem trimEnd_cases (text : List Char) :
    (∃ trailing, text = trimEnd text ++ trailing ∧ ∀ char ∈ trailing, isBlank char = true) ∧
      ∀ char, (trimEnd text).getLast? = some char → isBlank char = false := by
  constructor
  · refine ⟨(text.reverse.takeWhile isBlank).reverse, ?_, ?_⟩
    · rw [trimEnd, dropEndWhile, ← List.reverse_append, List.takeWhile_append_dropWhile,
        List.reverse_reverse]
    · intro char member
      exact List.all_eq_true.mp List.all_takeWhile char (List.mem_reverse.mp member)
  · intro char last
    rw [trimEnd, dropEndWhile, List.getLast?_reverse] at last
    exact head_dropWhile isBlank _ char last

/-- Blanks at both ends are dropped, and nothing between characters that are not blank is. -/
theorem trim_append {leading text trailing : List Char} (shown : text ≠ [])
    (dark : ∀ char, text.head? = some char ∨ text.getLast? = some char → isBlank char = false)
    (blank : ∀ char ∈ leading ++ trailing, isBlank char = true) :
    trim (leading ++ (text ++ trailing)) = text := by
  rcases List.forall_mem_append.mp blank with ⟨before, after⟩
  have starts : ∀ char, (text ++ trailing).head? = some char → isBlank char = false := by
    intro char first
    rw [List.head?_append_of_ne_nil _ shown] at first
    exact dark char (.inl first)
  rw [trim, List.dropWhile_append_of_pos before, (dropWhile_off starts).2]
  exact trimEnd_append (fun char last => dark char (.inr last)) after

theorem trim_cases (text : List Char) :
    ∃ leading trailing, text = leading ++ (trim text ++ trailing) ∧
      ∀ char ∈ leading ++ trailing, isBlank char = true := by
  rcases (trimEnd_cases (text.dropWhile isBlank)).1 with ⟨trailing, ended, after⟩
  refine ⟨text.takeWhile isBlank, trailing, ?_, ?_⟩
  · rw [trim, ← ended, List.takeWhile_append_dropWhile]
  · intro char member
    rcases List.mem_append.mp member with before | behind
    · exact List.all_eq_true.mp List.all_takeWhile char before
    · exact after char behind

end ClockBoard.Text
