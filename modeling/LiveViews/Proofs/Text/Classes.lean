import LiveViews.Text.Blank
import LiveViews.Text.Letters

/-!
Classes of characters. A text can be cut at the end of the characters of a class in one way only
(`cut_unique`), and no letter or digit is white space.
-/

namespace LiveViews.Text

section

variable {α : Type} {p : α → Bool} {left right : List α}

theorem takeWhile_append_stop (all : ∀ c ∈ left, p c = true)
    (stops : ∀ c, right.head? = some c → p c = false) : (left ++ right).takeWhile p = left := by
  rw [List.takeWhile_append_of_pos all]
  cases right with
  | nil => simp
  | cons c rest => simp [stops c rfl]

theorem dropWhile_append_stop (all : ∀ c ∈ left, p c = true)
    (stops : ∀ c, right.head? = some c → p c = false) : (left ++ right).dropWhile p = right := by
  rw [List.dropWhile_append_of_pos all]
  cases right with
  | nil => rfl
  | cons c rest => exact List.dropWhile_cons_of_neg (by simp [stops c rfl])

theorem cut_unique {other others : List α} (all : ∀ c ∈ left, p c = true)
    (stops : ∀ c, right.head? = some c → p c = false) (allOther : ∀ c ∈ other, p c = true)
    (stopsOther : ∀ c, others.head? = some c → p c = false) (same : left ++ right = other ++ others) :
    left = other ∧ right = others := by
  have fronts := congrArg (List.takeWhile p) same
  have ends := congrArg (List.dropWhile p) same
  rw [takeWhile_append_stop all stops, takeWhile_append_stop allOther stopsOther] at fronts
  rw [dropWhile_append_stop all stops, dropWhile_append_stop allOther stopsOther] at ends
  exact ⟨fronts, ends⟩

end

/-! ### White space and letters -/

theorem not_isBlank_of_inRanges {ranges : List (Nat × Nat)} (apart : (ranges.all fun range =>
    blankRanges.all fun blank => Nat.blt range.2 blank.1 || Nat.blt blank.2 range.1) = true) {c : Char}
    (inside : inRanges ranges c = true) : isBlank c = false := by
  obtain ⟨range, listed, within⟩ := List.any_eq_true.mp inside
  refine List.any_eq_false.mpr fun blank member => ?_
  have separate := List.all_eq_true.mp (List.all_eq_true.mp apart range listed) blank member
  simp only [Bool.or_eq_true, Bool.and_eq_true, decide_eq_true_eq, Nat.blt_eq] at separate within ⊢
  omega

theorem not_isBlank_of_ascii {c : Char} (ascii : c.toNat < 128)
    (letter : c.isAlpha = true ∨ c.isDigit = true) : isBlank c = false := by
  have codes : ∀ code < 128, (Char.ofNat code).isAlpha = true ∨ (Char.ofNat code).isDigit = true →
      isBlank (Char.ofNat code) = false := by
    decide
  have here := codes c.toNat ascii
  rw [Char.ofNat_toNat] at here
  exact here letter

theorem not_isBlank_alphanumeric {c : Char} (letter : isAlphanumeric c = true) : isBlank c = false := by
  unfold isAlphanumeric isAlphabetic isNumeric at letter
  by_cases ascii : c.toNat < 128
  · rw [if_pos ascii, if_pos ascii, Bool.or_eq_true] at letter
    exact not_isBlank_of_ascii ascii letter
  · rw [if_neg ascii, if_neg ascii, Bool.or_eq_true] at letter
    rcases letter with alphabetic | numeric
    · exact not_isBlank_of_inRanges (by decide +kernel) alphabetic
    · exact not_isBlank_of_inRanges (by decide +kernel) numeric

end LiveViews.Text
