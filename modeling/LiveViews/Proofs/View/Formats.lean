import LiveViews.Proofs.Text.Search
import LiveViews.View.Location
import Mathlib.Logic.Function.Basic

/-!
Formats of locations as what is to be put together: letters, and fields of a request.

Replacing one placeholder in what the pieces spell puts in that field and nothing else exactly where
the other texts do not read like the placeholder (`replaceAll_filled`, `occurrences_of_replaced`).
-/

namespace LiveViews.View

open LiveViews.Text

inductive Field where
  | name
  | controller
  | area
  deriving DecidableEq

def Field.placeholder : Field → List Char
  | .name => namePlaceholder
  | .controller => controllerPlaceholder
  | .area => areaPlaceholder

inductive Piece where
  | letter (c : Char)
  | field (field : Field)
  deriving DecidableEq

def fieldAt? (text : List Char) : Option Field :=
  [Field.name, Field.controller, Field.area].find? fun field =>
    (stripPrefix? field.placeholder text).isSome

/-- Reads a format of which `skip` characters still belong to the last placeholder. -/
def piecesBehind (skip : Nat) : List Char → List Piece
  | [] => []
  | c :: rest =>
    match skip with
    | skip + 1 => piecesBehind skip rest
    | 0 =>
      match fieldAt? (c :: rest) with
      | some field => .field field :: piecesBehind (field.placeholder.length - 1) rest
      | none => .letter c :: piecesBehind 0 rest

def pieces (format : List Char) : List Piece :=
  piecesBehind 0 format

def Piece.text (value : Field → List Char) : Piece → List Char
  | .letter c => [c]
  | .field wanted => value wanted

def filled (value : Field → List Char) (pieces : List Piece) : List Char :=
  pieces.flatMap (Piece.text value)

def assemble? (value? : Field → Option (List Char)) : List Piece → Option (List Char)
  | [] => some []
  | .letter c :: rest => (assemble? value? rest).map (c :: ·)
  | .field field :: rest => do return (← value? field) ++ (← assemble? value? rest)

theorem Field.braced (field : Field) :
    ∃ tail, field.placeholder = '{' :: tail ∧ '{' ∉ tail := by
  cases field <;> exact ⟨_, rfl, by decide⟩

theorem Field.unlapped (field : Field) : Unlapped field.placeholder :=
  ⟨'{', field.braced⟩

theorem Field.begins_apart {field other : Field} (different : field ≠ other) (text : List Char) :
    stripPrefix? field.placeholder (other.placeholder ++ text) = none := by
  cases field <;> cases other <;> first | exact absurd rfl different | rfl

theorem fieldAt?_placeholder (field : Field) (text : List Char) :
    fieldAt? (field.placeholder ++ text) = some field := by
  cases field <;> rfl

theorem strip_of_fieldAt? {text : List Char} {field : Field} (found : fieldAt? text = some field) :
    ∃ rest, text = field.placeholder ++ rest := by
  have begins := List.find?_some found
  obtain ⟨rest, strip⟩ := Option.isSome_iff_exists.mp begins
  exact ⟨rest, stripPrefix?_eq_some.mp strip⟩

theorem strip_of_fieldless {text : List Char} (fieldless : fieldAt? text = none) (field : Field) :
    stripPrefix? field.placeholder text = none := by
  have none := List.find?_eq_none.mp fieldless field (by cases field <;> simp)
  simpa using none

theorem piecesBehind_skip (skipped rest : List Char) :
    piecesBehind skipped.length (skipped ++ rest) = piecesBehind 0 rest := by
  induction skipped with
  | nil => rfl
  | cons c skipped ih => exact ih

theorem pieces_placeholder (field : Field) (rest : List Char) :
    pieces (field.placeholder ++ rest) = .field field :: pieces rest := by
  have found := fieldAt?_placeholder field rest
  obtain ⟨first, tail, whole, _⟩ := field.unlapped
  rw [whole, List.cons_append] at found ⊢
  unfold pieces
  rw [piecesBehind, found]
  simp only [whole, List.length_cons, Nat.add_sub_cancel]
  exact congrArg _ (piecesBehind_skip tail rest)

theorem pieces_cons {c : Char} {rest : List Char} (fieldless : fieldAt? (c :: rest) = none) :
    pieces (c :: rest) = .letter c :: pieces rest := by
  unfold pieces
  rw [piecesBehind, fieldless]

theorem format_induction {motive : List Char → Prop} (nil : motive [])
    (field : ∀ (field : Field) text, motive text → motive (field.placeholder ++ text))
    (letter : ∀ c text, fieldAt? (c :: text) = none → motive text → motive (c :: text))
    (format : List Char) : motive format := by
  match format with
  | [] => exact nil
  | c :: rest =>
      cases found : fieldAt? (c :: rest) with
      | none => exact letter c rest found (format_induction nil field letter rest)
      | some place =>
          obtain ⟨after, cut⟩ := strip_of_fieldAt? found
          have shorter : after.length ≤ rest.length := by
            obtain ⟨first, tail, own, _⟩ := place.unlapped
            have whole := congrArg List.length cut
            simp only [own, List.length_cons, List.length_append] at whole
            omega
          rw [cut]
          exact field place after (format_induction nil field letter after)
termination_by format.length

theorem filled_pieces (format : List Char) :
    filled Field.placeholder (pieces format) = format := by
  induction format using format_induction with
  | nil => rfl
  | field field text ih => rw [pieces_placeholder, filled, List.flatMap_cons, ← filled, ih]; rfl
  | letter c text fieldless ih =>
      rw [pieces_cons fieldless, filled, List.flatMap_cons, ← filled, ih]; rfl

theorem occurrences_placeholder {field other : Field} (different : field ≠ other)
    (text : List Char) :
    occurrences field.placeholder (other.placeholder ++ text) =
      occurrences field.placeholder text := by
  have begins := Field.begins_apart different text
  obtain ⟨tail, whole, single⟩ := field.braced
  obtain ⟨rest, shape, apart⟩ := other.braced
  rw [shape, List.cons_append] at begins ⊢
  rw [occurrences_cons field.unlapped begins, whole, occurrences_of_apart single apart]

theorem occurrences_format (field : Field) (format : List Char) :
    occurrences field.placeholder format = (pieces format).count (.field field) := by
  induction format using format_induction with
  | nil => exact occurrences_nil field.unlapped
  | field other text ih =>
      rw [pieces_placeholder]
      by_cases same : field = other
      · subst same
        rw [occurrences_append field.unlapped, ih, List.count_cons_self]
      · rw [occurrences_placeholder same, ih, List.count_cons_of_ne]
        simpa using Ne.symm same
  | letter c text fieldless ih =>
      rw [pieces_cons fieldless, occurrences_cons field.unlapped (strip_of_fieldless fieldless field),
        ih, List.count_cons_of_ne (by simp)]

/-! ### Filling in one field after the other -/

theorem filled_append (value : Field → List Char) (left right : List Piece) :
    filled value (left ++ right) = filled value left ++ filled value right :=
  List.flatMap_append

theorem filled_field (value : Field → List Char) (field : Field) (rest : List Piece) :
    filled value (.field field :: rest) = value field ++ filled value rest :=
  List.flatMap_cons

theorem filled_letter (value : Field → List Char) (c : Char) (rest : List Piece) :
    filled value (.letter c :: rest) = c :: filled value rest := by
  rw [filled, List.flatMap_cons]
  rfl

theorem filled_congr {value other : Field → List Char} {pieces : List Piece}
    (alike : ∀ field, .field field ∈ pieces → value field = other field) :
    filled value pieces = filled other pieces := by
  induction pieces with
  | nil => rfl
  | cons piece rest ih =>
      have later := ih fun field member => alike field (List.mem_cons_of_mem _ member)
      cases piece with
      | letter c => rw [filled_letter, filled_letter, later]
      | field field => rw [filled_field, filled_field, later, alike field List.mem_cons_self]

theorem filled_update {value : Field → List Char} {field : Field} {pieces : List Piece}
    (absent : .field field ∉ pieces) (text : List Char) :
    filled (Function.update value field text) pieces = filled value pieces := by
  apply filled_congr
  intro other member
  apply Function.update_of_ne
  rintro rfl
  exact absent member

theorem cut_induction (field : Field) {motive : List Piece → Prop}
    (absent : ∀ pieces, .field field ∉ pieces → motive pieces)
    (cut : ∀ before after, .field field ∉ before → motive after →
      motive (before ++ .field field :: after))
    (pieces : List Piece) : motive pieces := by
  by_cases member : .field field ∈ pieces
  · obtain ⟨before, after, whole, first⟩ := List.eq_append_cons_of_mem member
    have shorter : after.length < pieces.length := by
      simp [whole]
      omega
    rw [whole]
    exact cut before after first (cut_induction field absent cut after)
  · exact absent pieces member
termination_by pieces.length

theorem count_cut {field : Field} {before : List Piece} (first : .field field ∉ before)
    (after : List Piece) :
    (before ++ .field field :: after).count (.field field) = after.count (.field field) + 1 := by
  rw [List.count_append, List.count_eq_zero_of_not_mem first, List.count_cons_self, Nat.zero_add]

section

variable {value : Field → List Char} {field : Field} (kept : value field = field.placeholder)

include kept

theorem filled_cut (before after : List Piece) :
    filled value (before ++ .field field :: after) =
      filled value before ++ (field.placeholder ++ filled value after) := by
  rw [filled_append, filled_field, kept]

theorem count_le_occurrences (pieces : List Piece) :
    pieces.count (.field field) ≤ occurrences field.placeholder (filled value pieces) := by
  induction pieces using cut_induction field with
  | absent pieces absent => simp [List.count_eq_zero_of_not_mem absent]
  | cut before after first ih =>
      rw [count_cut first, filled_cut kept, occurrences_cut field.unlapped]
      omega

theorem replaceAll_filled {pieces : List Piece}
    (own : occurrences field.placeholder (filled value pieces) = pieces.count (.field field))
    (text : List Char) :
    replaceAll field.placeholder text (filled value pieces) =
      filled (Function.update value field text) pieces := by
  induction pieces using cut_induction field with
  | absent pieces absent =>
      rw [List.count_eq_zero_of_not_mem absent] at own
      rw [replaceAll_of_absent field.unlapped text own, filled_update absent]
  | cut before after first ih =>
      have enough := count_le_occurrences kept after
      rw [count_cut first, filled_cut kept, occurrences_cut field.unlapped] at own
      have none : occurrences field.placeholder (filled value before) = 0 := by omega
      rw [filled_cut kept, replaceAll_cut field.unlapped, replaceAll_of_absent field.unlapped _ none,
        ih (by omega), filled_append, filled_field, filled_update first, Function.update_self]

theorem occurrences_filled {pieces : List Piece} (letters : ∀ c, .letter c ∈ pieces → c ≠ '{')
    (others : ∀ other, other ≠ field → value other = other.placeholder ∨ '{' ∉ value other) :
    occurrences field.placeholder (filled value pieces) = pieces.count (.field field) := by
  obtain ⟨tail, whole, single⟩ := field.braced
  induction pieces with
  | nil => exact occurrences_nil field.unlapped
  | cons piece rest ih =>
      have later := ih fun c member => letters c (List.mem_cons_of_mem _ member)
      cases piece with
      | letter c =>
          have apart : '{' ∉ [c] := by simpa using (letters c List.mem_cons_self).symm
          rw [filled_letter, List.count_cons_of_ne (by simp), ← later, whole]
          exact occurrences_of_apart single apart _
      | field other =>
          rw [filled_field]
          by_cases same : other = field
          · subst same
            rw [kept, occurrences_append other.unlapped, later, List.count_cons_self]
          · rw [List.count_cons_of_ne (by simpa using same), ← later]
            rcases others other same with own | apart
            · rw [own, occurrences_placeholder (Ne.symm same)]
            · rw [whole]
              exact occurrences_of_apart single apart _

theorem fill_unknown {pieces : List Piece} (wanted : .field field ∈ pieces) :
    fill field.placeholder none (filled value pieces) = none := by
  have inside : occursIn field.placeholder (filled value pieces) = true := by
    have enough := count_le_occurrences kept pieces
    have some := List.count_pos_iff.mpr wanted
    exact (occursIn_iff field.unlapped _).mpr (by omega)
  rw [fill, if_pos inside]
  rfl

theorem fill_known {pieces : List Piece}
    (own : occurrences field.placeholder (filled value pieces) = pieces.count (.field field))
    {given : Option (List Char)} (known : .field field ∈ pieces → given.isSome) :
    fill field.placeholder given (filled value pieces) =
      some (filled (Function.update value field (given.getD [])) pieces) := by
  by_cases wanted : .field field ∈ pieces
  · have inside : occursIn field.placeholder (filled value pieces) = true := by
      have some := List.count_pos_iff.mpr wanted
      exact (occursIn_iff field.unlapped _).mpr (by omega)
    obtain ⟨text, rfl⟩ := Option.isSome_iff_exists.mp (known wanted)
    rw [fill, if_pos inside, Option.map_some, replaceAll_filled kept own, Option.getD_some]
  · have outside : ¬occursIn field.placeholder (filled value pieces) = true := by
      rw [occursIn_iff field.unlapped, own, List.count_eq_zero_of_not_mem wanted]
      exact not_not_intro rfl
    rw [fill, if_neg outside, filled_update wanted]

theorem length_update (text : List Char) (pieces : List Piece) :
    (filled (Function.update value field text) pieces).length +
        pieces.count (.field field) * field.placeholder.length =
      (filled value pieces).length + pieces.count (.field field) * text.length := by
  induction pieces using cut_induction field with
  | absent pieces absent => simp [List.count_eq_zero_of_not_mem absent, filled_update absent]
  | cut before after first ih =>
      rw [count_cut first, filled_cut kept, filled_append, filled_field, filled_update first,
        Function.update_self, Nat.add_one_mul, Nat.add_one_mul]
      simp only [List.length_append]
      omega

/-- Lengths tell how much was replaced: every occurrence takes the letters of the placeholder away. -/
theorem occurrences_of_replaced {pieces : List Piece}
    (replaced : replaceAll field.placeholder [] (filled value pieces) =
      filled (Function.update value field []) pieces) :
    occurrences field.placeholder (filled value pieces) = pieces.count (.field field) := by
  have all := length_replaceAll field.unlapped [] (filled value pieces)
  have own := length_update kept [] pieces
  rw [replaced] at all
  simp only [List.length_nil, Nat.mul_zero, Nat.add_zero] at all own
  have some : 0 < field.placeholder.length := by
    cases field <;> decide
  apply Nat.eq_of_mul_eq_mul_right some
  omega

end

theorem fill_some (field : Field) (given text : List Char) :
    fill field.placeholder (some given) text = some (replaceAll field.placeholder given text) := by
  unfold fill
  split
  · rfl
  next outside =>
    rw [occursIn_iff field.unlapped, not_not] at outside
    rw [replaceAll_of_absent field.unlapped given outside]

theorem assemble?_of_known {value? : Field → Option (List Char)} {pieces : List Piece}
    (value : Field → List Char)
    (known : ∀ field, .field field ∈ pieces → value? field = some (value field)) :
    assemble? value? pieces = some (filled value pieces) := by
  induction pieces with
  | nil => rfl
  | cons piece rest ih =>
      have later := ih fun field member => known field (List.mem_cons_of_mem _ member)
      cases piece with
      | letter c => rw [assemble?, later, filled_letter]; rfl
      | field field => rw [assemble?, later, known field List.mem_cons_self, filled_field]; rfl

theorem assemble?_eq_none {value? : Field → Option (List Char)} {pieces : List Piece} :
    assemble? value? pieces = none ↔ ∃ field, .field field ∈ pieces ∧ value? field = none := by
  induction pieces with
  | nil => simp [assemble?]
  | cons piece rest ih =>
      cases piece with
      | letter c => simp [assemble?, ih]
      | field wanted =>
          simp only [List.mem_cons, Piece.field.injEq, or_and_right, exists_or, exists_eq_left, ← ih,
            assemble?]
          cases value? wanted <;> cases assemble? value? rest <;> simp

end LiveViews.View
