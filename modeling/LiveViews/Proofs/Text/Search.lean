import LiveViews.Text.Search

/-!
Searching for a pattern that cannot overlap itself. Every occurrence of such a pattern cuts a text in
two that are searched each by itself (`splitOn_cut`), so that replacing is a matter of counting.
-/

namespace LiveViews.Text

/-- A pattern whose first character does not come again. -/
def Unlapped (pattern : List Char) : Prop :=
  ∃ first tail, pattern = first :: tail ∧ first ∉ tail

theorem stripPrefix?_eq_some {pattern text rest : List Char} :
    stripPrefix? pattern text = some rest ↔ text = pattern ++ rest := by
  induction pattern generalizing text with
  | nil => simp [stripPrefix?]
  | cons p pattern ih =>
      cases text with
      | nil => simp [stripPrefix?]
      | cons c text =>
          rw [stripPrefix?]
          split
          next same => simp [ih, same]
          next other => simp [Ne.symm other]

theorem stripPrefix?_eq_none {pattern text : List Char} :
    stripPrefix? pattern text = none ↔ ∀ rest, text ≠ pattern ++ rest := by
  simp only [Option.eq_none_iff_forall_ne_some, ne_eq, stripPrefix?_eq_some]

/-! ### Splitting once -/

theorem splitOnce_sound {pattern text before after : List Char}
    (split : splitOnce pattern text = some (before, after)) : text = before ++ (pattern ++ after) := by
  induction text generalizing before with
  | nil =>
      rw [splitOnce] at split
      split at split
      next empty =>
        cases split
        rw [List.isEmpty_iff.mp empty]
        rfl
      next => cases split
  | cons c rest ih =>
      rw [splitOnce] at split
      split at split
      next later found =>
        cases split
        rw [stripPrefix?_eq_some.mp found, List.nil_append]
      next =>
        obtain ⟨⟨front, later⟩, found, same⟩ := Option.map_eq_some_iff.mp split
        cases same
        rw [ih found]
        rfl

theorem splitOnce_append {first : Char} {before : List Char} (absent : first ∉ before)
    (pattern after : List Char) :
    splitOnce (first :: pattern) (before ++ (first :: pattern ++ after)) = some (before, after) := by
  induction before with
  | nil =>
      have found : stripPrefix? (first :: pattern) (first :: (pattern ++ after)) = some after :=
        stripPrefix?_eq_some.mpr rfl
      rw [List.nil_append, List.cons_append, splitOnce, found]
  | cons c before ih =>
      have other : ¬first = c := fun same => absent (same ▸ List.mem_cons_self)
      have later := ih fun member => absent (List.mem_cons_of_mem _ member)
      rw [List.cons_append, splitOnce, stripPrefix?, if_neg other, later]
      rfl

/-- A text is split at a sign exactly if the sign is in it, and then at the first one. -/
theorem splitOnce_sign (sign : Char) (text : List Char) :
    (splitOnce [sign] text = none ∧ sign ∉ text) ∨
    ∃ before after, splitOnce [sign] text = some (before, after) ∧ sign ∉ before ∧
      text = before ++ sign :: after := by
  by_cases member : sign ∈ text
  · obtain ⟨before, after, whole, absent⟩ := List.eq_append_cons_of_mem member
    exact Or.inr ⟨before, after, whole ▸ splitOnce_append absent [] after, absent, whole⟩
  · refine Or.inl ⟨Option.eq_none_iff_forall_ne_some.mpr fun parts split => member ?_, member⟩
    rw [splitOnce_sound split]
    simp

/-! ### The pieces, one character after the other -/

theorem piecesAfter_current (pattern : List Char) (skip : Nat) (current text : List Char) :
    piecesAfter pattern skip current text =
      (piecesAfter pattern skip [] text).modifyHead (current.reverse ++ ·) := by
  induction text generalizing skip current with
  | nil => simp [piecesAfter]
  | cons c rest ih =>
      cases skip with
      | succ skip => exact ih skip current
      | zero =>
          rw [piecesAfter, piecesAfter]
          split
          · simp
          · rw [ih 0 (c :: current), ih 0 [c], List.modifyHead_modifyHead]
            simp [Function.comp_def]

theorem piecesAfter_skip (pattern skipped text : List Char) :
    piecesAfter pattern skipped.length [] (skipped ++ text) = piecesAfter pattern 0 [] text := by
  induction skipped with
  | nil => rfl
  | cons c rest ih => exact ih

section

variable {pattern : List Char} (unlapped : Unlapped pattern)

include unlapped

theorem splitOn_eq_piecesAfter (text : List Char) :
    splitOn pattern text = piecesAfter pattern 0 [] text := by
  obtain ⟨first, tail, rfl, _⟩ := unlapped
  rfl

theorem splitOn_nil : splitOn pattern [] = [[]] :=
  splitOn_eq_piecesAfter unlapped []

theorem splitOn_append (text : List Char) :
    splitOn pattern (pattern ++ text) = [] :: splitOn pattern text := by
  rw [splitOn_eq_piecesAfter unlapped, splitOn_eq_piecesAfter unlapped]
  have found : stripPrefix? pattern (pattern ++ text) = some text := stripPrefix?_eq_some.mpr rfl
  obtain ⟨first, tail, rfl, _⟩ := unlapped
  rw [List.cons_append] at found ⊢
  rw [piecesAfter, found, Option.isSome_some, if_pos rfl]
  exact congrArg _ (piecesAfter_skip _ tail text)

theorem splitOn_cons {c : Char} {text : List Char}
    (other : stripPrefix? pattern (c :: text) = none) :
    splitOn pattern (c :: text) = (splitOn pattern text).modifyHead (c :: ·) := by
  rw [splitOn_eq_piecesAfter unlapped, splitOn_eq_piecesAfter unlapped, piecesAfter, other,
    Option.isSome_none, if_neg Bool.false_ne_true, piecesAfter_current]
  rfl

theorem search_induction {motive : List Char → Prop} (nil : motive [])
    (append : ∀ text, motive text → motive (pattern ++ text))
    (cons : ∀ c text, stripPrefix? pattern (c :: text) = none → motive text → motive (c :: text))
    (text : List Char) : motive text := by
  match text with
  | [] => exact nil
  | c :: rest =>
      cases found : stripPrefix? pattern (c :: rest) with
      | none => exact cons c rest found (search_induction nil append cons rest)
      | some after =>
          have cut := stripPrefix?_eq_some.mp found
          have shorter : after.length ≤ rest.length := by
            obtain ⟨first, tail, rfl, _⟩ := unlapped
            have whole := congrArg List.length cut
            simp only [List.length_cons, List.length_append] at whole
            omega
          rw [cut]
          exact append after (search_induction nil append cons after)
termination_by text.length

theorem splitOn_ne_nil (text : List Char) : splitOn pattern text ≠ [] := by
  induction text using search_induction unlapped with
  | nil => simp [splitOn_nil unlapped]
  | append text _ => simp [splitOn_append unlapped]
  | cons c text other ih => simp [splitOn_cons unlapped other, ih]

theorem joinWith_splitOn (text : List Char) : joinWith pattern (splitOn pattern text) = text := by
  induction text using search_induction unlapped with
  | nil => rw [splitOn_nil unlapped, joinWith]
  | append text ih =>
      obtain ⟨first, rest, split⟩ := List.exists_cons_of_ne_nil (splitOn_ne_nil unlapped text)
      rw [splitOn_append unlapped, split, joinWith, ← split, ih]
      · rfl
      · simp
  | cons c text other ih =>
      obtain ⟨first, rest, split⟩ := List.exists_cons_of_ne_nil (splitOn_ne_nil unlapped text)
      rw [splitOn_cons unlapped other, split, List.modifyHead_cons]
      rw [split] at ih
      rw [← ih]
      cases rest <;> rfl

theorem stripPrefix?_before {c : Char} {text : List Char} (after : List Char)
    (other : stripPrefix? pattern (c :: text) = none) :
    stripPrefix? pattern (c :: (text ++ (pattern ++ after))) = none := by
  rw [stripPrefix?_eq_none] at other ⊢
  intro rest same
  rw [← List.cons_append, List.append_eq_append_iff] at same
  obtain ⟨more, whole, again⟩ | ⟨more, whole, _⟩ := same
  · obtain ⟨first, tail, rfl, single⟩ := unlapped
    obtain ⟨rfl, rfl⟩ := List.cons.inj whole
    cases more with
    | nil => exact other [] (by simp)
    | cons next more =>
        obtain ⟨rfl, _⟩ := List.cons.inj again
        exact single (by simp)
  · exact other more whole

theorem splitOn_cut (before after : List Char) :
    splitOn pattern (before ++ (pattern ++ after)) =
      splitOn pattern before ++ splitOn pattern after := by
  induction before using search_induction unlapped with
  | nil => rw [List.nil_append, splitOn_append unlapped, splitOn_nil unlapped]; rfl
  | append text ih =>
      rw [List.append_assoc, splitOn_append unlapped, splitOn_append unlapped, ih, List.cons_append]
  | cons c text other ih =>
      obtain ⟨first, rest, split⟩ := List.exists_cons_of_ne_nil (splitOn_ne_nil unlapped text)
      rw [List.cons_append, splitOn_cons unlapped (stripPrefix?_before unlapped after other),
        splitOn_cons unlapped other, ih, split]
      rfl

end

/-! ### Counting and replacing -/

def occurrences (pattern text : List Char) : Nat :=
  (splitOn pattern text).length - 1

theorem joinWith_cons (separator piece : List Char) {pieces : List (List Char)}
    (some : pieces ≠ []) :
    joinWith separator (piece :: pieces) = piece ++ separator ++ joinWith separator pieces := by
  cases pieces with
  | nil => exact absurd rfl some
  | cons next rest => rfl

theorem joinWith_append (separator : List Char) {left right : List (List Char)} (before : left ≠ [])
    (after : right ≠ []) :
    joinWith separator (left ++ right) =
      joinWith separator left ++ separator ++ joinWith separator right := by
  induction left with
  | nil => exact absurd rfl before
  | cons piece rest ih =>
      by_cases last : rest = []
      · subst last
        exact joinWith_cons separator piece after
      · rw [List.cons_append, joinWith_cons _ _ (by simp [last]), joinWith_cons _ _ last, ih last]
        simp only [List.append_assoc]

section

variable {pattern : List Char} (unlapped : Unlapped pattern)

include unlapped

theorem length_splitOn (text : List Char) :
    (splitOn pattern text).length = occurrences pattern text + 1 := by
  have := List.length_pos_iff.mpr (splitOn_ne_nil unlapped text)
  unfold occurrences
  omega

theorem occurrences_cut (before after : List Char) :
    occurrences pattern (before ++ (pattern ++ after)) =
      occurrences pattern before + occurrences pattern after + 1 := by
  have whole := length_splitOn unlapped (before ++ (pattern ++ after))
  rw [splitOn_cut unlapped, List.length_append, length_splitOn unlapped,
    length_splitOn unlapped] at whole
  omega

theorem occurrences_nil : occurrences pattern [] = 0 := by
  rw [occurrences, splitOn_nil unlapped]
  rfl

theorem occurrences_append (text : List Char) :
    occurrences pattern (pattern ++ text) = occurrences pattern text + 1 := by
  have cut := occurrences_cut unlapped [] text
  rwa [List.nil_append, occurrences_nil unlapped, Nat.zero_add] at cut

theorem occurrences_cons {c : Char} {text : List Char}
    (other : stripPrefix? pattern (c :: text) = none) :
    occurrences pattern (c :: text) = occurrences pattern text := by
  rw [occurrences, splitOn_cons unlapped other, List.length_modifyHead]
  rfl

theorem occursIn_iff (text : List Char) :
    occursIn pattern text = true ↔ occurrences pattern text ≠ 0 := by
  induction text using search_induction unlapped with
  | nil =>
      obtain ⟨first, tail, rfl, _⟩ := unlapped
      simp [occursIn, splitOnce, occurrences, splitOn, piecesAfter]
  | append text _ =>
      have found : stripPrefix? pattern (pattern ++ text) = some text := stripPrefix?_eq_some.mpr rfl
      rw [occurrences_append unlapped]
      obtain ⟨first, tail, rfl, _⟩ := unlapped
      rw [List.cons_append] at found
      simp [occursIn, splitOnce, found]
  | cons c text other ih =>
      rw [occurrences_cons unlapped other, ← ih]
      simp [occursIn, splitOnce, other]

theorem splitOn_of_absent {text : List Char} (absent : occurrences pattern text = 0) :
    splitOn pattern text = [text] := by
  have single := length_splitOn unlapped text
  rw [absent] at single
  obtain ⟨piece, only⟩ := List.length_eq_one_iff.mp single
  have whole := joinWith_splitOn unlapped text
  rw [only, joinWith] at whole
  rw [only, whole]

theorem replaceAll_of_absent (replacement : List Char) {text : List Char}
    (absent : occurrences pattern text = 0) : replaceAll pattern replacement text = text := by
  rw [replaceAll, splitOn_of_absent unlapped absent, joinWith]

theorem replaceAll_self (text : List Char) : replaceAll pattern pattern text = text :=
  joinWith_splitOn unlapped text

theorem replaceAll_cut (replacement before after : List Char) :
    replaceAll pattern replacement (before ++ (pattern ++ after)) =
      replaceAll pattern replacement before ++
        (replacement ++ replaceAll pattern replacement after) := by
  rw [replaceAll, splitOn_cut unlapped,
    joinWith_append _ (splitOn_ne_nil unlapped before) (splitOn_ne_nil unlapped after),
    List.append_assoc]
  rfl

theorem replaceAll_append (replacement text : List Char) :
    replaceAll pattern replacement (pattern ++ text) =
      replacement ++ replaceAll pattern replacement text := by
  have cut := replaceAll_cut unlapped replacement [] text
  rwa [replaceAll_of_absent unlapped replacement (occurrences_nil unlapped), List.nil_append,
    List.nil_append] at cut

theorem replaceAll_cons (replacement : List Char) {c : Char} {text : List Char}
    (other : stripPrefix? pattern (c :: text) = none) :
    replaceAll pattern replacement (c :: text) = c :: replaceAll pattern replacement text := by
  obtain ⟨first, rest, split⟩ := List.exists_cons_of_ne_nil (splitOn_ne_nil unlapped text)
  rw [replaceAll, replaceAll, splitOn_cons unlapped other, split, List.modifyHead_cons]
  cases rest <;> rfl

theorem length_replaceAll (replacement text : List Char) :
    (replaceAll pattern replacement text).length + occurrences pattern text * pattern.length =
      text.length + occurrences pattern text * replacement.length := by
  induction text using search_induction unlapped with
  | nil =>
      have none := occurrences_nil unlapped
      simp [none, replaceAll_of_absent unlapped replacement none]
  | append text ih =>
      rw [occurrences_append unlapped, replaceAll_append unlapped, List.length_append,
        List.length_append, Nat.add_one_mul, Nat.add_one_mul]
      omega
  | cons c text other ih =>
      rw [occurrences_cons unlapped other, replaceAll_cons unlapped replacement other,
        List.length_cons, List.length_cons]
      omega

end

theorem occurrences_of_apart {first : Char} {tail before : List Char} (single : first ∉ tail)
    (apart : first ∉ before) (text : List Char) :
    occurrences (first :: tail) (before ++ text) = occurrences (first :: tail) text := by
  induction before with
  | nil => rfl
  | cons c rest ih =>
      obtain ⟨other, later⟩ := List.ne_and_not_mem_of_not_mem_cons apart
      have begins : stripPrefix? (first :: tail) (c :: (rest ++ text)) = none :=
        if_neg other
      rw [List.cons_append, occurrences_cons ⟨first, tail, rfl, single⟩ begins, ih later]

end LiveViews.Text
