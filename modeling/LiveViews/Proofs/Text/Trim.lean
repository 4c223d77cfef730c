import LiveViews.Text.Blank
import Mathlib.Data.List.TakeWhile

/-!
White space at the ends of a text.
-/

namespace LiveViews.Text

theorem trimStart_eq_nil {text : List Char} : trimStart text = [] ↔ ∀ c ∈ text, isBlank c = true :=
  List.dropWhile_eq_nil_iff

theorem trimEnd_eq_nil {text : List Char} : trimEnd text = [] ↔ ∀ c ∈ text, isBlank c = true := by
  unfold trimEnd
  rw [List.reverse_eq_nil_iff, List.dropWhile_eq_nil_iff]
  simp only [List.mem_reverse]

theorem trimEnd_append_cons {c : Char} (visible : isBlank c = false) (front rest : List Char) :
    trimEnd (front ++ c :: rest) = front ++ c :: trimEnd rest := by
  have whole : front ++ c :: rest = (front ++ [c]) ++ rest := by rw [List.append_cons]
  rw [whole]
  unfold trimEnd
  rw [List.reverse_append, List.dropWhile_append]
  split
  next nothing =>
    rw [List.isEmpty_iff.mp nothing]
    simp [visible]
  next => simp

theorem trimEnd_cons {c : Char} (visible : isBlank c = false) (rest : List Char) :
    trimEnd (c :: rest) = c :: trimEnd rest :=
  trimEnd_append_cons visible [] rest

theorem trimEnd_begins (text : List Char) : trimEnd text <+: text := by
  unfold trimEnd
  rw [← List.reverse_suffix, List.reverse_reverse]
  exact List.dropWhile_suffix _

theorem trim_eq_nil {text : List Char} : trim text = [] ↔ ∀ c ∈ text, isBlank c = true := by
  unfold trim
  rw [trimEnd_eq_nil]
  constructor
  · intro blank
    cases kept : trimStart text with
    | nil => exact trimStart_eq_nil.mp kept
    | cons c rest =>
        have first := List.head?_dropWhile_not isBlank text
        have here : text.dropWhile isBlank = c :: rest := kept
        rw [here] at first
        have isBlankC := blank c (kept ▸ List.mem_cons_self)
        simp [isBlankC] at first
  · intro blank c member
    exact blank c (List.dropWhile_subset _ member)

def endsVisibly (text : List Char) : Bool :=
  text.getLast?.all fun c => !isBlank c

theorem trimEnd_append {text after : List Char} (visible : endsVisibly text = true)
    (blank : ∀ c ∈ after, isBlank c = true) : trimEnd (text ++ after) = text := by
  unfold trimEnd
  rw [List.reverse_append, List.dropWhile_append_of_pos (by simpa using blank)]
  have kept : text.reverse.dropWhile isBlank = text.reverse := by
    unfold endsVisibly at visible
    rw [← List.head?_reverse] at visible
    cases reversed : text.reverse with
    | nil => rfl
    | cons c rest =>
        rw [reversed, List.head?_cons, Option.all_some, Bool.not_eq_true'] at visible
        exact List.dropWhile_cons_of_neg (by simp [visible])
  rw [kept, List.reverse_reverse]

theorem trim_around {before text after : List Char} (blankBefore : ∀ c ∈ before, isBlank c = true)
    (begins : (text.head?.all fun c => !isBlank c) = true) (ends : endsVisibly text = true)
    (blankAfter : ∀ c ∈ after, isBlank c = true) : trim (before ++ text ++ after) = text := by
  unfold trim trimStart
  rw [List.append_assoc, List.dropWhile_append_of_pos blankBefore]
  cases text with
  | nil => exact trimEnd_eq_nil.mpr fun c member => blankAfter c (List.dropWhile_subset _ member)
  | cons c rest =>
      rw [List.head?_cons, Option.all_some, Bool.not_eq_true'] at begins
      rw [List.cons_append, List.dropWhile_cons_of_neg (by simp [begins])]
      exact trimEnd_append ends blankAfter

theorem trim_between {before text after : List Char} (blankBefore : ∀ c ∈ before, isBlank c = true)
    (visible : ∀ c ∈ text, isBlank c = false) (blankAfter : ∀ c ∈ after, isBlank c = true) :
    trim (before ++ text ++ after) = text := by
  apply trim_around blankBefore _ _ blankAfter
  · rw [Option.all_eq_true]
    intro c first
    simp [visible c (List.mem_of_head? first)]
  · unfold endsVisibly
    rw [Option.all_eq_true]
    intro c last
    simp [visible c (List.mem_of_getLast? last)]

theorem trimEnd_split (text : List Char) :
    ∃ after, (∀ c ∈ after, isBlank c = true) ∧ text = trimEnd text ++ after := by
  refine ⟨(text.reverse.takeWhile isBlank).reverse,
    fun c member => List.mem_takeWhile_imp (List.mem_reverse.mp member), ?_⟩
  rw [trimEnd, ← List.reverse_append, List.takeWhile_append_dropWhile, List.reverse_reverse]

theorem trim_split (text : List Char) : ∃ before after, (∀ c ∈ before, isBlank c = true) ∧
    (∀ c ∈ after, isBlank c = true) ∧ text = before ++ trim text ++ after := by
  obtain ⟨after, blank, ends⟩ := trimEnd_split (trimStart text)
  refine ⟨text.takeWhile isBlank, after, fun c => List.mem_takeWhile_imp, blank, ?_⟩
  rw [trim, List.append_assoc, ← ends]
  exact List.takeWhile_append_dropWhile.symm

theorem trimStart_of_begins {text : List Char}
    (begins : (text.head?.all fun c => !isBlank c) = true) : trimStart text = text := by
  cases text with
  | nil => rfl
  | cons c rest =>
      rw [List.head?_cons, Option.all_some, Bool.not_eq_true'] at begins
      exact List.dropWhile_cons_of_neg (by simp [begins])

theorem length_trimEnd_lt {text : List Char} (blank : endsVisibly text = false) :
    (trimEnd text).length < text.length := by
  have whole : text.reverse.length = text.length := List.length_reverse
  unfold endsVisibly at blank
  rw [← List.head?_reverse] at blank
  unfold trimEnd
  cases reversed : text.reverse with
  | nil =>
      rw [reversed] at blank
      cases blank
  | cons c rest =>
      rw [reversed, List.head?_cons, Option.all_some, Bool.not_eq_false'] at blank
      rw [reversed, List.length_cons] at whole
      rw [List.dropWhile_cons_of_pos blank, List.length_reverse]
      have shorter := (List.dropWhile_suffix isBlank (l := rest)).length_le
      omega

end LiveViews.Text
