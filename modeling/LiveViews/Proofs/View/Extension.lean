import LiveViews.Proofs.Text.Slices
import LiveViews.Proofs.View.Normal

/-!
Extensions taken off by their length in bytes. That the end of a path is the extension in some case
means that the extension is as long in bytes as that end, so that no cut comes inside of a character
and each one leaves fewer bytes (`stripWithin?_eq`). What is left in the end is the one beginning of the
path that all repetitions of the extension are behind (`strips_every_repetition`).
-/

namespace LiveViews.View

open LiveViews.Text

/-! ### The bytes of an extension -/

theorem utf8Size_toLower (c : Char) : c.toLower.utf8Size = c.utf8Size := by
  refine toLower_cases (motive := fun c lower => lower.utf8Size = c.utf8Size) ?_ ?_ c
  · exact fun _ _ => rfl
  · decide

theorem byteLength_map_toLower (text : List Char) :
    byteLength (text.map Char.toLower) = byteLength text := by
  induction text with
  | nil => rfl
  | cons c rest ih => rw [List.map_cons, byteLength_cons, byteLength_cons, utf8Size_toLower, ih]

theorem size_of_sameLetters {left right : String}
    (same : sameLetters left.toList right.toList = true) :
    left.utf8ByteSize = right.utf8ByteSize := by
  rw [← byteLength_toList, ← byteLength_toList, ← byteLength_map_toLower left.toList,
    sameLetters_iff.mp same, byteLength_map_toLower]

theorem hasExtension_iff_ending {extension path : String} :
    hasExtension extension.toList path.toList = true ↔ extension ≠ "" ∧
      ∃ front ending : String, path = front ++ ending ∧
        sameLetters ending.toList extension.toList = true := by
  rw [hasExtension_iff, ne_eq, String.toList_eq_nil_iff]
  refine and_congr_right fun _ => ⟨?_, ?_⟩
  · intro ends
    obtain ⟨last, ⟨first, whole⟩, same⟩ := List.suffix_map_iff.mp ends
    refine ⟨String.ofList first, String.ofList last, ?_, ?_⟩
    · rw [← String.ofList_append, whole, String.ofList_toList]
    · rw [String.toList_ofList]
      exact sameLetters_iff.mpr same.symm
  · rintro ⟨front, ending, rfl, same⟩
    rw [String.toList_append, List.map_append, sameLetters_iff.mp same]
    exact List.suffix_append _ _

/-! ### The test and the loop over bytes -/

/-- Whether the path ends in the extension, read behind the offset where it would begin; none if that
cuts a character. -/
def carries? (extension path : String) : Option Bool :=
  let offset := path.utf8ByteSize - extension.utf8ByteSize
  if !extension.isEmpty && extension.utf8ByteSize ≤ path.utf8ByteSize && isBoundary path offset then
    (behind? path offset).map fun ending => sameLetters ending.toList extension.toList
  else some false

/-- The path cut before the extension for as long as it carries one; none if a cut comes inside of a
character, or if the loop has not ended after so many turns. -/
def stripTurns? (extension : String) : Nat → String → Option String
  | 0, _ => none
  | turns + 1, path =>
    match carries? extension path with
    | none => none
    | some false => some path
    | some true =>
      (before? path (path.utf8ByteSize - extension.utf8ByteSize)).bind (stripTurns? extension turns)

def stripWithin? (turns : Nat) (extension path : String) : Option String :=
  if extension.isEmpty then some path else stripTurns? extension turns path

theorem size_before_ending {extension path front ending : String} (whole : path = front ++ ending)
    (same : sameLetters ending.toList extension.toList = true) :
    extension.utf8ByteSize ≤ path.utf8ByteSize ∧
      front.utf8ByteSize = path.utf8ByteSize - extension.utf8ByteSize := by
  rw [whole, String.utf8ByteSize_append, size_of_sameLetters same]
  omega

theorem carries?_eq (extension path : String) :
    carries? extension path = some (hasExtension extension.toList path.toList) := by
  unfold carries?
  dsimp only
  split
  next guard =>
    simp only [Bool.and_eq_true, Bool.not_eq_true', decide_eq_true_eq] at guard
    obtain ⟨⟨present, _⟩, between⟩ := guard
    obtain ⟨front, ending, whole, size⟩ := isBoundary_iff.mp between
    have behind := behind?_eq_some.mpr ⟨front, whole, size⟩
    rw [behind, Option.map_some, Option.some_inj, Bool.eq_iff_iff, hasExtension_iff_ending]
    constructor
    · intro same
      refine ⟨?_, front, ending, whole, same⟩
      rintro rfl
      cases present
    · rintro ⟨_, first, last, split, same⟩
      have here := behind?_eq_some.mpr ⟨first, split, (size_before_ending split same).2⟩
      rw [behind, Option.some_inj] at here
      exact here ▸ same
  next guard =>
    rw [Option.some_inj, eq_comm, ← Bool.not_eq_true]
    intro found
    obtain ⟨present, front, ending, whole, same⟩ := hasExtension_iff_ending.mp found
    obtain ⟨fits, size⟩ := size_before_ending whole same
    refine guard ?_
    simp only [Bool.and_eq_true, Bool.not_eq_true', decide_eq_true_eq]
    exact ⟨⟨by simpa using present, fits⟩, isBoundary_iff.mpr ⟨front, ending, whole, size⟩⟩

def barePath (extension path : String) : String :=
  String.ofList (stripExtension extension.toList path.toList)

theorem barePath_append {extension front ending : String}
    (same : sameLetters ending.toList extension.toList = true) :
    barePath extension (front ++ ending) = barePath extension front := by
  unfold barePath
  rw [String.toList_append, stripExtension_append _ same]

theorem barePath_of_not {extension path : String}
    (bare : hasExtension extension.toList path.toList = false) : barePath extension path = path := by
  rw [barePath, stripExtension_of_not bare, String.ofList_toList]

theorem stripTurns?_eq {turns : Nat} {extension path : String} (enough : path.utf8ByteSize < turns) :
    stripTurns? extension turns path = some (barePath extension path) := by
  induction turns generalizing path with
  | zero => omega
  | succ turns ih =>
      rw [stripTurns?, carries?_eq]
      cases found : hasExtension extension.toList path.toList with
      | false => exact congrArg some (barePath_of_not found).symm
      | true =>
          obtain ⟨present, front, ending, whole, same⟩ := hasExtension_iff_ending.mp found
          obtain ⟨fits, size⟩ := size_before_ending whole same
          have cut := before?_eq_some.mpr ⟨ending, whole, size⟩
          have bytes : extension.utf8ByteSize ≠ 0 := mt String.utf8ByteSize_eq_zero_iff.mp present
          dsimp only
          rw [cut, Option.bind_some, ih (by omega), whole, barePath_append same]

theorem stripWithin?_eq {turns : Nat} {extension path : String} (enough : path.utf8ByteSize < turns) :
    stripWithin? turns extension path = some (barePath extension path) := by
  unfold stripWithin?
  split
  next empty =>
    rw [String.isEmpty_iff] at empty
    have bare : hasExtension extension.toList path.toList = false := by
      rw [empty]
      rfl
    rw [barePath_of_not bare]
  next => exact stripTurns?_eq enough

/-! ### What is left -/

/-- The beginning of a path that nothing but repetitions of the extension are behind, each in some case,
and that does not end in one itself. -/
structure Bare (extension path bare : String) : Prop where
  repeated : ∃ endings : List String, path = bare ++ String.join endings ∧
    ∀ ending ∈ endings, sameLetters ending.toList extension.toList = true
  ends : ∀ front ending : String, bare = front ++ ending →
    sameLetters ending.toList extension.toList = false

theorem not_hasExtension_iff {extension path : String} (present : extension ≠ "") :
    hasExtension extension.toList path.toList = false ↔
      ∀ front ending : String, path = front ++ ending →
        sameLetters ending.toList extension.toList = false := by
  rw [← Bool.not_eq_true, hasExtension_iff_ending]
  simp [present]

theorem barePath_append_join {extension : String} (path : String) {endings : List String}
    (same : ∀ ending ∈ endings, sameLetters ending.toList extension.toList = true) :
    barePath extension (path ++ String.join endings) = barePath extension path := by
  unfold barePath
  rw [String.toList_append, String.toList_join, List.flatMap, stripExtension_append_flatten]
  intro ending member
  obtain ⟨text, listed, rfl⟩ := List.mem_map.mp member
  exact same text listed

theorem exists_endings (extension path : String) :
    ∃ endings : List String, path = barePath extension path ++ String.join endings ∧
      ∀ ending ∈ endings, sameLetters ending.toList extension.toList = true := by
  induction size : path.utf8ByteSize using Nat.strongRecOn generalizing path with
  | ind bytes ih =>
      cases found : hasExtension extension.toList path.toList with
      | false =>
          refine ⟨[], ?_, nofun⟩
          rw [barePath_of_not found, String.join_nil, String.append_empty]
      | true =>
          obtain ⟨present, front, ending, rfl, same⟩ := hasExtension_iff_ending.mp found
          have bytes : ending.utf8ByteSize ≠ 0 := by
            rw [size_of_sameLetters same]
            exact mt String.utf8ByteSize_eq_zero_iff.mp present
          rw [String.utf8ByteSize_append] at size
          obtain ⟨endings, whole, others⟩ := ih front.utf8ByteSize (by omega) front rfl
          refine ⟨endings ++ [ending], ?_, ?_⟩
          · rw [barePath_append same, String.join_append, ← String.append_assoc, ← whole,
              String.join_cons, String.join_nil, String.append_empty]
          · intro other member
            rcases List.mem_append.mp member with earlier | last
            · exact others other earlier
            · rw [List.mem_singleton.mp last]
              exact same

theorem bare_barePath {extension : String} (present : extension ≠ "") (path : String) :
    Bare extension path (barePath extension path) where
  repeated := exists_endings extension path
  ends := by
    apply (not_hasExtension_iff present).mp
    rw [barePath, String.toList_ofList]
    exact hasExtension_stripExtension _ _

theorem Bare.eq_barePath {extension path bare : String} (present : extension ≠ "")
    (left : Bare extension path bare) : bare = barePath extension path := by
  obtain ⟨endings, rfl, same⟩ := left.repeated
  rw [barePath_append_join bare same, barePath_of_not ((not_hasExtension_iff present).mpr left.ends)]

/-- The loop that takes the extension off a path ends for every path and extension, within as many turns
as the path has bytes and one more, and cuts between characters only. An empty extension leaves the
path; of any other one, what is left is the only beginning of the path that has nothing behind it but
repetitions of the extension and does not end in one. -/
theorem strips_every_repetition (extension path : String) :
    (∀ turns, path.utf8ByteSize < turns →
      stripWithin? turns extension path = some (barePath extension path)) ∧
    (extension = "" → barePath extension path = path) ∧
    (extension ≠ "" → ∀ bare, Bare extension path bare ↔ bare = barePath extension path) := by
  refine ⟨fun turns => stripWithin?_eq, ?_, ?_⟩
  · rintro rfl
    exact barePath_of_not rfl
  · intro present bare
    constructor
    · exact Bare.eq_barePath present
    · rintro rfl
      exact bare_barePath present path

/-- The extension overlaps itself, and begins inside of a character if it is put at the end of what is
left. -/
theorem strips_every_repetition_overlapping :
    "aA" ≠ "" ∧ "页AaAaa".utf8ByteSize < 9 ∧
    stripWithin? 9 "aA" "页AaAaa" = some "页A" ∧ Bare "aA" "页AaAaa" "页A" := by
  have present : "aA" ≠ "" := by decide
  have enough : "页AaAaa".utf8ByteSize < 9 := by decide
  have left : Bare "aA" "页AaAaa" "页A" :=
    ⟨⟨["aA", "aa"], by decide, by decide⟩, (not_hasExtension_iff present).mp (by decide)⟩
  obtain ⟨loop, _, only⟩ := strips_every_repetition "aA" "页AaAaa"
  refine ⟨present, enough, ?_, left⟩
  rw [loop 9 enough, ((only present) _).mp left]

end LiveViews.View
