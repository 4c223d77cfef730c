import LiveViews.Proofs.Text.Numeral
import LiveViews.Proofs.Text.Search
import LiveViews.Proofs.Text.Trim
import LiveViews.Render.RangeLimit

/-!
The search for oversized ranges. It finds the leftmost literal range that has too many items, wherever
it stands and whatever brackets and dots stand around it, and it takes no more turns than there are
opening brackets (`finds_leftmost_oversized`).
-/

namespace LiveViews

open LiveViews.Text

/-! ### Literal ranges -/

inductive BoundText : List Char → Int → Prop where
  | intro {before numeral after : List Char} {value : Int} : (∀ c ∈ before, isBlank c = true) →
      Numeral numeral value → fitsI64 value = true → (∀ c ∈ after, isBlank c = true) →
      BoundText (before ++ numeral ++ after) value

/-- A literal range, from its opening bracket to its closing one. -/
inductive RangeText : List Char → Int × Int → Prop where
  | intro {left right : List Char} {first last : Int} : BoundText left first → BoundText right last →
      RangeText ('(' :: (left ++ '.' :: '.' :: right ++ [')'])) (first, last)

theorem BoundText.not_mem {piece : List Char} {value : Int} (bound : BoundText piece value) :
    '.' ∉ piece ∧ ')' ∉ piece := by
  obtain @⟨before, numeral, after, _, blankBefore, written, _, blankAfter⟩ := bound
  have absent (c : Char) (visible : isBlank c = false) (plain : isDigit c = false) (minus : c ≠ '-')
      (plus : c ≠ '+') : c ∉ before ++ numeral ++ after := by
    intro member
    rcases List.mem_append.mp member with member | behind
    · rcases List.mem_append.mp member with ahead | inside
      · rw [blankBefore c ahead] at visible
        cases visible
      · rcases mem_numeral (readInteger?_eq_some.mpr written) c inside with digit | same | same
        · rw [digit] at plain
          cases plain
        · exact minus same
        · exact plus same
    · rw [blankAfter c behind] at visible
      cases visible
  exact ⟨absent '.' (by decide) (by decide) (by decide) (by decide),
    absent ')' (by decide) (by decide) (by decide) (by decide)⟩

theorem readI64?_trim {piece : List Char} {value : Int} :
    readI64? (trim piece) = some value ↔ BoundText piece value := by
  unfold readI64?
  rw [Option.filter_eq_some_iff]
  constructor
  · rintro ⟨read, fits⟩
    obtain ⟨before, after, blankBefore, blankAfter, whole⟩ := trim_split piece
    rw [whole]
    exact .intro blankBefore (readInteger?_eq_some.mp read) fits blankAfter
  · rintro @⟨before, numeral, after, _, blankBefore, written, fits, blankAfter⟩
    have read := readInteger?_eq_some.mpr written
    rw [trim_between blankBefore (not_isBlank_numeral read) blankAfter]
    exact ⟨read, fits⟩

theorem openedBounds?_eq_some {text : List Char} {bounds : Int × Int} :
    openedBounds? text = some bounds ↔
      ∃ literal after, RangeText literal bounds ∧ '(' :: text = literal ++ after := by
  constructor
  · intro opened
    obtain ⟨⟨inside, after⟩, closed, read⟩ := Option.bind_eq_some_iff.mp opened
    obtain ⟨⟨left, right⟩, divided, read⟩ := Option.bind_eq_some_iff.mp read
    obtain ⟨first, leftRead, read⟩ := Option.bind_eq_some_iff.mp read
    obtain ⟨last, rightRead, same⟩ := Option.bind_eq_some_iff.mp read
    cases same
    refine ⟨_, after, .intro (readI64?_trim.mp leftRead) (readI64?_trim.mp rightRead), ?_⟩
    rw [splitOnce_sound closed, splitOnce_sound divided]
    simp
  · rintro ⟨_, after, @⟨left, right, first, last, leftBound, rightBound⟩, whole⟩
    have text : text = (left ++ (['.', '.'] ++ right)) ++ ([')'] ++ after) := by
      rw [(List.cons.inj whole).2]
      simp
    have inside : ')' ∉ left ++ (['.', '.'] ++ right) := by
      simp [leftBound.not_mem.2, rightBound.not_mem.2]
    unfold openedBounds?
    rw [text, splitOnce_append inside]
    show readBounds? (left ++ (['.', '.'] ++ right)) = some (first, last)
    unfold readBounds?
    rw [splitOnce_append leftBound.not_mem.1]
    simp [readI64?_trim.mpr leftBound, readI64?_trim.mpr rightBound]

def OversizedAt (limit : Nat) (text : List Char) (place : Nat) (bounds : Int × Int) : Prop :=
  ∃ literal after, text.drop place = literal ++ after ∧ RangeText literal bounds ∧
    (limit : Int) < bounds.2 - bounds.1 + 1

section Search

variable {limit : Nat} {text rest : List Char} {place : Nat} {bounds other : Int × Int}

theorem oversizedAt_zero {c : Char} : OversizedAt limit (c :: rest) 0 bounds ↔
    c = '(' ∧ (openedBounds? rest).filter (exceeds limit) = some bounds := by
  rw [Option.filter_eq_some_iff, openedBounds?_eq_some, exceeds, decide_eq_true_eq]
  constructor
  · rintro ⟨literal, after, whole, range, many⟩
    have bracket : c = '(' := by
      cases range
      exact (List.cons.inj whole).1
    rw [bracket] at whole
    exact ⟨bracket, ⟨literal, after, range, whole⟩, many⟩
  · rintro ⟨rfl, ⟨literal, after, range, whole⟩, many⟩
    exact ⟨literal, after, whole, range, many⟩

theorem oversizedAt_succ {c : Char} :
    OversizedAt limit (c :: rest) (place + 1) bounds ↔ OversizedAt limit rest place bounds :=
  Iff.rfl

theorem not_oversizedAt_nil : ¬OversizedAt limit [] place bounds := by
  rintro ⟨_, after, whole, ⟨⟩, _⟩
  rw [List.drop_nil] at whole
  cases whole

theorem OversizedAt.eq (first : OversizedAt limit text place bounds)
    (second : OversizedAt limit text place other) : bounds = other := by
  induction text generalizing place with
  | nil => exact absurd first not_oversizedAt_nil
  | cons c rest ih =>
      cases place with
      | zero => exact Option.some.inj ((oversizedAt_zero.mp first).2.symm.trans
          (oversizedAt_zero.mp second).2)
      | succ place => exact ih first second

structure LeftmostAt (limit : Nat) (text : List Char) (place : Nat) (bounds : Int × Int) : Prop where
  oversized : OversizedAt limit text place bounds
  first : ∀ earlier others, OversizedAt limit text earlier others → place ≤ earlier

/-- What a search answers: nothing, if there is nothing, or what the leftmost range says. -/
inductive Searched (limit : Nat) (text : List Char) : Option (Int × Int) → Prop where
  | nothing : (∀ place bounds, ¬OversizedAt limit text place bounds) → Searched limit text none
  | found {place : Nat} {bounds : Int × Int} : LeftmostAt limit text place bounds →
      Searched limit text (some bounds)

theorem Searched.cons {c : Char} {answer : Option (Int × Int)}
    (here : ∀ bounds, ¬OversizedAt limit (c :: rest) 0 bounds) (searched : Searched limit rest answer) :
    Searched limit (c :: rest) answer := by
  cases searched with
  | nothing none =>
      refine .nothing fun place bounds oversized => ?_
      cases place with
      | zero => exact here bounds oversized
      | succ place => exact none place bounds oversized
  | @found place bounds leftmost =>
      refine .found ⟨oversizedAt_succ.mpr leftmost.oversized, fun earlier others oversized => ?_⟩
      cases earlier with
      | zero => exact absurd oversized (here others)
      | succ earlier => exact Nat.succ_le_succ (leftmost.first earlier others oversized)

theorem searched (limit : Nat) (text : List Char) :
    Searched limit text (oversizedRange? limit text) := by
  induction text with
  | nil => exact .nothing fun _ _ => not_oversizedAt_nil
  | cons c rest ih =>
      rw [oversizedRange?]
      by_cases bracket : c = '('
      · rw [if_pos bracket]
        cases read : (openedBounds? rest).filter (exceeds limit) with
        | some bounds =>
            exact .found ⟨oversizedAt_zero.mpr ⟨bracket, read⟩, fun _ _ _ => Nat.zero_le _⟩
        | none =>
            refine ih.cons fun bounds oversized => ?_
            rw [(oversizedAt_zero.mp oversized).2] at read
            cases read
      · rw [if_neg bracket]
        exact ih.cons fun _ oversized => bracket (oversizedAt_zero.mp oversized).1

theorem oversizedRange?_eq_none : oversizedRange? limit text = none ↔
    ∀ place bounds, ¬OversizedAt limit text place bounds := by
  have answer := searched limit text
  generalize oversizedRange? limit text = result at answer
  cases answer with
  | nothing none => exact iff_of_true rfl none
  | found leftmost => exact iff_of_false nofun fun none => none _ _ leftmost.oversized

theorem oversizedRange?_eq_some : oversizedRange? limit text = some bounds ↔
    ∃ place, LeftmostAt limit text place bounds := by
  have answer := searched limit text
  generalize oversizedRange? limit text = result at answer
  cases answer with
  | nothing none => exact iff_of_false nofun fun ⟨place, leftmost⟩ => none place _ leftmost.oversized
  | @found place found leftmost =>
      rw [Option.some.injEq]
      constructor
      · rintro rfl
        exact ⟨place, leftmost⟩
      · rintro ⟨other, same⟩
        have places : place = other := Nat.le_antisymm (leftmost.first other bounds same.oversized)
          (same.first place found leftmost.oversized)
        exact leftmost.oversized.eq (places ▸ same.oversized)

end Search

/-! ### The search as a loop -/

inductive SearchTurn where
  | answered (bounds : Option (Int × Int))
  | behind (rest : List Char)

def searchTurn (limit : Nat) (text : List Char) : SearchTurn :=
  match splitOnce ['('] text with
  | none => .answered none
  | some (_, rest) =>
    match splitOnce [')'] rest with
    | none => .answered none
    | some (inside, _) =>
      match (readBounds? inside).filter (exceeds limit) with
      | some bounds => .answered (some bounds)
      | none => .behind rest

/-- The answer after at most `count` turns. -/
def searchWithin (limit : Nat) : Nat → List Char → Option (Option (Int × Int))
  | 0, _ => none
  | count + 1, text =>
    match searchTurn limit text with
    | .answered bounds => some bounds
    | .behind rest => searchWithin limit count rest

theorem oversizedRange?_append {limit : Nat} {before : List Char} (absent : '(' ∉ before)
    (text : List Char) : oversizedRange? limit (before ++ text) = oversizedRange? limit text := by
  induction before with
  | nil => rfl
  | cons c rest ih =>
      obtain ⟨other, later⟩ := List.ne_and_not_mem_of_not_mem_cons absent
      rw [List.cons_append, oversizedRange?, if_neg other.symm, ih later]

theorem oversizedRange?_of_unclosed {limit : Nat} {text : List Char} (unclosed : ')' ∉ text) :
    oversizedRange? limit text = none := by
  refine oversizedRange?_eq_none.mpr fun place bounds oversized => unclosed ?_
  obtain ⟨_, after, whole, ⟨left, right⟩, _⟩ := oversized
  apply List.mem_of_mem_drop
  rw [whole]
  simp

/-- A turn gives the answer of the whole search, or leaves a text with one bracket less to search. -/
theorem searchTurn_cases (limit : Nat) (text : List Char) :
    searchTurn limit text = .answered (oversizedRange? limit text) ∨
    ∃ rest, searchTurn limit text = .behind rest ∧
      oversizedRange? limit text = oversizedRange? limit rest ∧ rest.count '(' < text.count '(' := by
  unfold searchTurn
  rcases splitOnce_sign '(' text with ⟨split, absent⟩ | ⟨before, rest, split, absent, rfl⟩
  · have nothing : oversizedRange? limit (text ++ []) = oversizedRange? limit [] :=
      oversizedRange?_append absent []
    rw [List.append_nil] at nothing
    rw [split, nothing]
    exact Or.inl rfl
  · have passed : oversizedRange? limit (before ++ '(' :: rest) =
        oversizedRange? limit ('(' :: rest) := oversizedRange?_append absent _
    rw [split, passed, oversizedRange?, if_pos rfl, openedBounds?]
    dsimp only
    cases closed : splitOnce [')'] rest with
    | none =>
        rcases splitOnce_sign ')' rest with ⟨_, unclosed⟩ | ⟨_, _, split, _⟩
        · rw [oversizedRange?_of_unclosed unclosed]
          exact Or.inl rfl
        · rw [closed] at split
          cases split
    | some parts =>
        rw [Option.bind_eq_bind, Option.bind_some]
        dsimp only
        cases (readBounds? parts.1).filter (exceeds limit) with
        | some bounds => exact Or.inl rfl
        | none =>
            refine Or.inr ⟨rest, rfl, rfl, ?_⟩
            rw [List.count_append, List.count_cons_self]
            omega

theorem searchWithin_eq (limit count : Nat) (text : List Char) (enough : text.count '(' < count) :
    searchWithin limit count text = some (oversizedRange? limit text) := by
  induction count generalizing text with
  | zero => omega
  | succ count ih =>
      rw [searchWithin]
      rcases searchTurn_cases limit text with answered | ⟨rest, behind, same, fewer⟩
      · rw [answered]
      · rw [behind, same]
        exact ih rest (by omega)

/-! ### The arithmetic of words -/

/-- How many items a range between words of 64 bits has, in words of 128. -/
def itemsWord (first last : BitVec 64) : BitVec 128 :=
  last.signExtend 128 - first.signExtend 128 + 1

theorem toInt_itemsWord (first last : BitVec 64) :
    (last.signExtend 128).ssubOverflow (first.signExtend 128) = false ∧
    (last.signExtend 128 - first.signExtend 128).saddOverflow 1 = false ∧
    (itemsWord first last).toInt = last.toInt - first.toInt + 1 := by
  have firstWord : (first.signExtend 128).toInt = first.toInt := BitVec.toInt_signExtend_of_le (by omega)
  have lastWord : (last.signExtend 128).toInt = last.toInt := BitVec.toInt_signExtend_of_le (by omega)
  have firstLeast := first.le_toInt
  have firstMost := @BitVec.toInt_lt 64 first
  have lastLeast := last.le_toInt
  have lastMost := @BitVec.toInt_lt 64 last
  have one : (1 : BitVec 128).toInt = 1 := by decide
  have apart : (last.signExtend 128).ssubOverflow (first.signExtend 128) = false := by
    simp only [BitVec.ssubOverflow, firstWord, lastWord, Bool.or_eq_false_iff, decide_eq_false_iff_not]
    omega
  have difference : (last.signExtend 128 - first.signExtend 128).toInt = last.toInt - first.toInt := by
    rw [BitVec.toInt_sub_of_not_ssubOverflow (Bool.eq_false_iff.mp apart), lastWord, firstWord]
  have next : (last.signExtend 128 - first.signExtend 128).saddOverflow 1 = false := by
    simp only [BitVec.saddOverflow, difference, one, Bool.or_eq_false_iff, decide_eq_false_iff_not]
    omega
  refine ⟨apart, next, ?_⟩
  rw [itemsWord, BitVec.toInt_add_of_not_saddOverflow (Bool.eq_false_iff.mp next), difference, one]

theorem exceeds_eq_slt {limit : Nat} (word : limit < wordBound) (first last : BitVec 64) :
    exceeds limit (first.toInt, last.toInt) = (BitVec.ofNat 128 limit).slt (itemsWord first last) := by
  unfold wordBound at word
  have exact : (BitVec.ofNat 128 limit).toInt = limit := by
    rw [BitVec.toInt_ofNat']
    exact Int.bmod_eq_of_le (by omega) (by omega)
  rw [Bool.eq_iff_iff, BitVec.slt_iff_toInt_lt, exact, (toInt_itemsWord first last).2.2, exceeds,
    decide_eq_true_eq]

/-- The search answers nothing exactly if no literal range of the text has more than `limit` items, and
else the bounds of the leftmost one that has. It is done after one turn more than there are opening
brackets, and counting the items overflows for no bounds of 64 bits. -/
theorem finds_leftmost_oversized (limit : Nat) (source : String) :
    (oversizedRange? limit source.toList = none ↔
      ∀ place bounds, ¬OversizedAt limit source.toList place bounds) ∧
    (∀ bounds, oversizedRange? limit source.toList = some bounds ↔
      ∃ place, LeftmostAt limit source.toList place bounds) ∧
    searchWithin limit (source.toList.count '(' + 1) source.toList =
      some (oversizedRange? limit source.toList) ∧
    (limit < wordBound → ∀ first last : BitVec 64,
      (last.signExtend 128).ssubOverflow (first.signExtend 128) = false ∧
      (last.signExtend 128 - first.signExtend 128).saddOverflow 1 = false ∧
      exceeds limit (first.toInt, last.toInt) =
        (BitVec.ofNat 128 limit).slt (itemsWord first last)) := by
  have done := searchWithin_eq limit (source.toList.count '(' + 1) source.toList (Nat.lt_succ_self _)
  refine ⟨oversizedRange?_eq_none, fun bounds => oversizedRange?_eq_some, done, ?_⟩
  intro word first last
  obtain ⟨apart, next, _⟩ := toInt_itemsWord first last
  exact ⟨apart, next, exceeds_eq_slt word first last⟩

example : oversizedRange? 10 "((x) (1 .. +5) é( -3\t..\t8)".toList = some (-3, 8) := by decide

end LiveViews
