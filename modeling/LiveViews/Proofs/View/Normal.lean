import LiveViews.Proofs.Text.Case
import LiveViews.Proofs.View.Spelling

/-!
Normal paths. Every spelling of a path, by white space around it, a tilde, the case of its letters and
the extension any number of times, has the normal path of that path (`spellings_share_normal_path`). A
normal path is normal itself unless white space is left at its end (`normalize_normalize_iff`).
-/

namespace LiveViews.View

open LiveViews.Text

variable {extension : List Char}

/-! ### The case of letters -/

theorem slashed_toLower (c : Char) : slashed c.toLower = (slashed c).toLower := by
  refine toLower_cases (motive := fun c lower => slashed lower = (slashed c).toLower) ?_ ?_ c
  · intro c small
    unfold slashed
    split
    · rfl
    · exact small.symm
  · decide

theorem sameLetters_iff {left right : List Char} :
    sameLetters left right = true ↔ left.map Char.toLower = right.map Char.toLower := by
  unfold sameLetters
  exact decide_eq_true_iff

theorem withSlash_map_toLower (path : List Char) :
    withSlash (path.map Char.toLower) = (withSlash path).map Char.toLower := by
  by_cases begins : path.head? = some '/'
  · obtain ⟨rest, rfl⟩ := List.head?_eq_some_iff.mp begins
    rfl
  · have alike : (path.map Char.toLower).head? ≠ some '/' := by
      rw [List.head?_map]
      intro slash
      obtain ⟨c, first, lower⟩ := Option.map_eq_some_iff.mp slash
      exact begins (toLower_eq_slash lower ▸ first)
    rw [withSlash_of_ne begins, withSlash_of_ne alike]
    rfl

theorem map_slashed_toLower (path : List Char) :
    (path.map Char.toLower).map slashed = (path.map slashed).map Char.toLower := by
  rw [List.map_map, List.map_map]
  exact List.map_congr_left fun c _ => slashed_toLower c

theorem lowercase_congr {left right : List Char}
    (same : left.map Char.toLower = right.map Char.toLower) : lowercase left = lowercase right := by
  rw [← lowercase_map_toLower left, same, lowercase_map_toLower]

theorem hasExtension_congr {left right : List Char}
    (same : left.map Char.toLower = right.map Char.toLower) :
    hasExtension extension left = hasExtension extension right := by
  rw [Bool.eq_iff_iff, hasExtension_iff, hasExtension_iff, same]

theorem stripExtension_of_has {path : List Char} (carries : hasExtension extension path = true) :
    stripExtension extension path =
      stripExtension extension (path.take (path.length - extension.length)) := by
  rw [stripExtension, if_pos carries]

theorem stripExtension_of_not {path : List Char} (bare : hasExtension extension path = false) :
    stripExtension extension path = path := by
  rw [stripExtension, if_neg (by simp [bare])]

theorem stripExtension_congr {left right : List Char}
    (same : left.map Char.toLower = right.map Char.toLower) :
    (stripExtension extension left).map Char.toLower =
      (stripExtension extension right).map Char.toLower := by
  fun_induction stripExtension extension left generalizing right with
  | case1 left found ih =>
      have length : left.length = right.length := by
        have lengths := congrArg List.length same
        rwa [List.length_map, List.length_map] at lengths
      rw [stripExtension_of_has ((hasExtension_congr same).symm.trans found)]
      apply ih
      rw [List.map_take, List.map_take, same, length]
  | case2 left other =>
      rw [Bool.not_eq_true, hasExtension_congr same] at other
      rw [stripExtension_of_not other]
      exact same

theorem lowercase_slashed_congr {left right : List Char}
    (same : left.map Char.toLower = right.map Char.toLower) :
    lowercase ((withSlash left).map slashed) = lowercase ((withSlash right).map slashed) := by
  apply lowercase_congr
  rw [← map_slashed_toLower, ← map_slashed_toLower, ← withSlash_map_toLower, same,
    withSlash_map_toLower]

/-! ### The extension, any number of times -/

theorem hasExtension_stripExtension (extension path : List Char) :
    hasExtension extension (stripExtension extension path) = false := by
  fun_induction stripExtension extension path with
  | case1 path found ih => exact ih
  | case2 path other => exact Bool.eq_false_iff.mpr other

theorem stripExtension_append (path : List Char) {ending : List Char}
    (same : sameLetters ending extension = true) :
    stripExtension extension (path ++ ending) = stripExtension extension path := by
  have letters := sameLetters_iff.mp same
  have length : ending.length = extension.length := by
    have lengths := congrArg List.length letters
    rwa [List.length_map, List.length_map] at lengths
  by_cases empty : extension = []
  · rw [empty, List.length_nil, List.length_eq_zero_iff] at length
    rw [length, List.append_nil]
  · have carries : hasExtension extension ending = true :=
      hasExtension_iff.mpr ⟨empty, letters ▸ List.suffix_rfl⟩
    have front : (path ++ ending).take ((path ++ ending).length - extension.length) = path := by
      rw [List.length_append, length, Nat.add_sub_cancel, List.take_left]
    rw [stripExtension_of_has (hasExtension_append path carries), front]

theorem stripExtension_append_flatten (path : List Char) {endings : List (List Char)}
    (same : ∀ ending ∈ endings, sameLetters ending extension = true) :
    stripExtension extension (path ++ endings.flatten) = stripExtension extension path := by
  induction endings generalizing path with
  | nil => rw [List.flatten_nil, List.append_nil]
  | cons ending rest ih =>
      rw [List.flatten_cons, ← List.append_assoc,
        ih _ fun other member => same other (List.mem_cons_of_mem _ member),
        stripExtension_append path (same ending List.mem_cons_self)]

/-! ### Spellings -/

/-- A way to spell a path: white space around it, a tilde in front of it, its letters in any case, and
the extension behind it any number of times and in any case. -/
inductive Spells (extension path : List Char) : List Char → Prop where
  | intro {before tilde letters after : List Char} {endings : List (List Char)} :
      (∀ c ∈ before, isBlank c = true) → tilde = [] ∨ tilde = ['~'] →
      sameLetters letters path = true →
      (∀ ending ∈ endings, sameLetters ending extension = true) →
      (∀ c ∈ after, isBlank c = true) →
      Spells extension path (before ++ (tilde ++ (letters ++ endings.flatten)) ++ after)

theorem isBlank_of_sameLetters {left right : List Char} (same : sameLetters left right = true)
    (visible : ∀ c ∈ right, isBlank c = false) : ∀ c ∈ left, isBlank c = false := by
  intro c member
  have known : c.toLower ∈ right.map Char.toLower :=
    sameLetters_iff.mp same ▸ List.mem_map_of_mem member
  obtain ⟨other, inside, lower⟩ := List.mem_map.mp known
  rw [← isBlank_toLower, ← lower, isBlank_toLower]
  exact visible other inside

theorem endsVisibly_congr {left right : List Char} (same : sameLetters left right = true) :
    endsVisibly left = endsVisibly right := by
  have lower : ∀ text : List Char, endsVisibly (text.map Char.toLower) = endsVisibly text := by
    intro text
    unfold endsVisibly
    rw [List.getLast?_map, Option.all_map]
    simp only [isBlank_toLower]
  rw [← lower left, sameLetters_iff.mp same, lower]

theorem endsVisibly_append {front ending : List Char} (visible : endsVisibly front = true)
    (solid : ∀ c ∈ ending, isBlank c = false) : endsVisibly (front ++ ending) = true := by
  by_cases empty : ending = []
  · rwa [empty, List.append_nil]
  · unfold endsVisibly
    rw [List.getLast?_append_of_ne_nil _ empty, Option.all_eq_true]
    intro c last
    simp [solid c (List.mem_of_getLast? last)]

theorem head?_of_sameLetters {letters path : List Char} (same : sameLetters letters path = true)
    (rooted : path.head? = some '/') : letters.head? = some '/' := by
  have first := congrArg List.head? (sameLetters_iff.mp same)
  rw [List.head?_map, List.head?_map, rooted] at first
  obtain ⟨c, here, lower⟩ := Option.map_eq_some_iff.mp first
  exact toLower_eq_slash lower ▸ here

theorem normalize_of_spells {path spelling : List Char}
    (solid : ∀ c ∈ extension, isBlank c = false) (rooted : path.head? = some '/')
    (visible : endsVisibly path = true) (spells : Spells extension path spelling) :
    normalize extension spelling =
      lowercase ((withSlash (stripExtension extension path)).map slashed) := by
  obtain @⟨before, tilde, letters, after, endings, blankBefore, tildes, same, repeated, blankAfter⟩ :=
    spells
  have first : letters.head? = some '/' := head?_of_sameLetters same rooted
  obtain ⟨rest, rfl⟩ := List.head?_eq_some_iff.mp first
  have solidEndings : ∀ c ∈ endings.flatten, isBlank c = false := by
    intro c member
    obtain ⟨ending, listed, inside⟩ := List.mem_flatten.mp member
    exact isBlank_of_sameLetters (repeated ending listed) solid c inside
  have ends : endsVisibly (('/' :: rest) ++ endings.flatten) = true :=
    endsVisibly_append ((endsVisibly_congr same).trans visible) solidEndings
  have seen : isBlank '/' = false ∧ isBlank '~' = false := by decide
  have bare : dropTilde (trim (before ++ (tilde ++ (('/' :: rest) ++ endings.flatten)) ++ after)) =
      ('/' :: rest) ++ endings.flatten := by
    rcases tildes with rfl | rfl
    · rw [List.nil_append, trim_around blankBefore _ ends blankAfter]
      · rfl
      · simp [seen.1]
    · rw [trim_around blankBefore _ _ blankAfter]
      · rfl
      · simp [seen.2]
      · unfold endsVisibly at ends ⊢
        rwa [List.getLast?_append_of_ne_nil _ (by simp)]
  unfold normalize
  dsimp only
  rw [bare, stripExtension_append_flatten _ repeated]
  exact lowercase_slashed_congr (stripExtension_congr (sameLetters_iff.mp same))

/-! ### Normal paths -/

theorem normalize_rooted (extension path : List Char) :
    ∃ rest, normalize extension path = '/' :: rest := by
  unfold normalize
  dsimp only
  obtain ⟨rest, slash⟩ : ∃ rest, withSlash (stripExtension extension (dropTilde (trim path))) =
      '/' :: rest := by
    unfold withSlash
    split
    · exact ⟨_, rfl⟩
    · exact ⟨_, rfl⟩
  rw [slash]
  exact ⟨_, rfl⟩

theorem backslash_notMem_normalize (extension path : List Char) :
    '\\' ∉ normalize extension path := by
  intro member
  obtain ⟨c, known, block, lowers, inside⟩ := (lowers_lowercase _).exists_of_mem member
  rw [← lowers.eq_of_mem inside (Or.inr (by decide))] at known
  obtain ⟨other, _, same⟩ := List.mem_map.mp known
  unfold slashed at same
  split at same
  · cases same
  next different => exact different same

/-- All spellings of a rooted path have one normal path, which begins with a slash and has no
backslash. -/
theorem spellings_share_normal_path {extension path spelling : String}
    (solid : ∀ c ∈ extension.toList, isBlank c = false) (rooted : path.toList.head? = some '/')
    (visible : endsVisibly path.toList = true)
    (spells : Spells extension.toList path.toList spelling.toList) :
    normalPath extension spelling = normalPath extension path ∧
    (normalPath extension path).toList.head? = some '/' ∧
    '\\' ∉ (normalPath extension path).toList := by
  have itself : Spells extension.toList path.toList path.toList := by
    have plain := @Spells.intro extension.toList path.toList [] [] path.toList [] [] nofun (Or.inl rfl)
      (sameLetters_iff.mpr rfl) nofun nofun
    simpa using plain
  refine ⟨?_, ?_, ?_⟩
  · unfold normalPath
    rw [normalize_of_spells solid rooted visible spells,
      normalize_of_spells solid rooted visible itself]
  · obtain ⟨rest, slash⟩ := normalize_rooted extension.toList path.toList
    rw [normalPath, String.toList_ofList, slash, List.head?_cons]
  · rw [normalPath, String.toList_ofList]
    exact backslash_notMem_normalize _ _

theorem spellings_share_normal_path_home :
    (∀ c ∈ ".liquid".toList, isBlank c = false) ∧ "/Home/Index".toList.head? = some '/' ∧
    endsVisibly "/Home/Index".toList = true ∧
    Spells ".liquid".toList "/Home/Index".toList "\t~/hOME/Index.Liquid.LIQUID\n".toList ∧
    normalPath ".liquid" "\t~/hOME/Index.Liquid.LIQUID\n" = normalPath ".liquid" "/Home/Index" := by
  have solid : ∀ c ∈ ".liquid".toList, isBlank c = false := by
    have none : ".liquid".toList.any isBlank = false := by decide
    simpa using none
  have rooted : "/Home/Index".toList.head? = some '/' := by decide
  have visible : endsVisibly "/Home/Index".toList = true := by decide
  have spells : Spells ".liquid".toList "/Home/Index".toList
      "\t~/hOME/Index.Liquid.LIQUID\n".toList :=
    @Spells.intro _ _ "\t".toList ['~'] "/hOME/Index".toList "\n".toList
      [".Liquid".toList, ".LIQUID".toList] (List.all_eq_true.mp (by decide)) (Or.inr rfl)
      (by decide) (List.all_eq_true.mp (by decide)) (List.all_eq_true.mp (by decide))
  exact ⟨solid, rooted, visible, spells,
    (spellings_share_normal_path solid rooted visible spells).1⟩

/-! ### Normal paths made normal again -/

/-- An extension that is in lower case made of nothing but ASCII, and neither of a slash nor of the
letter that is the lower case of the sign for Kelvin. -/
def PlainExtension (extension : List Char) : Prop :=
  ∀ letter ∈ extension.map Char.toLower, letter.toNat < 128 ∧ letter ≠ '/' ∧ letter ≠ 'k'

instance (extension : List Char) : Decidable (PlainExtension extension) :=
  List.decidableBAll _ _

theorem PlainExtension.relative (plain : PlainExtension extension) :
    extension.head? ≠ some '/' := by
  intro slash
  have member : '/' ∈ extension.map Char.toLower :=
    List.mem_map.mpr ⟨'/', List.mem_of_head? slash, rfl⟩
  exact (plain '/' member).2.1 rfl

theorem suffix_map_congr {before after : Char → Char} {letters text : List Char}
    (ends : letters <:+ text.map before) (same : ∀ c, before c ∈ letters → after c = before c) :
    letters <:+ text.map after := by
  obtain ⟨last, lastEnds, rfl⟩ := List.suffix_map_iff.mp ends
  have mapped : last.map before = last.map after :=
    List.map_congr_left fun c member => (same c (List.mem_map_of_mem member)).symm
  rw [mapped]
  exact lastEnds.map after

theorem hasExtension_of_lowercase (plain : PlainExtension extension) {path : List Char}
    (carries : hasExtension extension (lowercase ((withSlash path).map slashed)) = true) :
    hasExtension extension path = true := by
  obtain ⟨some, ends⟩ := hasExtension_iff.mp carries
  have small : (lowercase ((withSlash path).map slashed)).map Char.toLower =
      lowercase ((withSlash path).map slashed) :=
    (List.map_congr_left fun _ member => (lowered_of_mem member).toLower_eq).trans (List.map_id _)
  rw [small] at ends
  have inText := (lowers_lowercase _).suffix ends fun letter member =>
    ⟨(plain letter member).1, (plain letter member).2.2⟩
  rw [List.map_map] at inText
  have inPath : extension.map Char.toLower <:+ (withSlash path).map Char.toLower := by
    refine suffix_map_congr inText fun c member => ?_
    have other := (plain _ member).2.1
    rw [Function.comp_apply] at other ⊢
    unfold slashed at other ⊢
    split at other
    · exact absurd rfl other
    next different => rw [if_neg different]
  have slash : hasExtension extension (withSlash path) = true := hasExtension_iff.mpr ⟨some, inPath⟩
  by_cases begins : path.head? = Option.some '/'
  · obtain ⟨rest, rfl⟩ := List.head?_eq_some_iff.mp begins
    exact slash
  · rwa [withSlash_of_ne begins, hasExtension_slash plain.relative] at slash

theorem not_hasExtension_normalize (plain : PlainExtension extension) (path : List Char) :
    hasExtension extension (normalize extension path) = false := by
  rw [← Bool.not_eq_true]
  intro carries
  have bare := hasExtension_of_lowercase plain carries
  rw [hasExtension_stripExtension] at bare
  cases bare

theorem withSlash_begins {path rest : List Char} (begins : path <+: '/' :: rest) :
    withSlash path <+: '/' :: rest := by
  cases path with
  | nil => exact ⟨rest, rfl⟩
  | cons c later =>
      obtain ⟨more, whole⟩ := begins
      obtain ⟨rfl, _⟩ := List.cons.inj whole
      exact ⟨more, whole⟩

theorem normalize_normalize_begins (extension path : List Char) :
    ∃ rest, trimEnd (normalize extension path) = '/' :: rest ∧
      normalize extension (normalize extension path) =
        withSlash (stripExtension extension ('/' :: rest)) ∧
      withSlash (stripExtension extension ('/' :: rest)) <+: '/' :: rest := by
  obtain ⟨later, rooted⟩ := normalize_rooted extension path
  have seen : isBlank '/' = false := by decide
  have ends : trimEnd (normalize extension path) = '/' :: trimEnd later := by
    rw [rooted, trimEnd_cons seen]
  have begins := withSlash_begins (@stripExtension_begins extension ('/' :: trimEnd later))
  refine ⟨trimEnd later, ends, ?_, begins⟩
  have start : trimStart (normalize extension path) = normalize extension path := by
    apply trimStart_of_begins
    rw [rooted, List.head?_cons, Option.all_some, seen]
    rfl
  have inside : ∀ c ∈ withSlash (stripExtension extension ('/' :: trimEnd later)),
      c ∈ normalize extension path := by
    intro c member
    exact (trimEnd_begins _).subset (ends ▸ begins.subset member)
  have again : dropTilde (trim (normalize extension path)) = '/' :: trimEnd later := by
    rw [trim, start, ends]
    rfl
  have slashes : (withSlash (stripExtension extension ('/' :: trimEnd later))).map slashed =
      withSlash (stripExtension extension ('/' :: trimEnd later)) := by
    refine (List.map_congr_left fun c member => if_neg ?_).trans (List.map_id _)
    rintro rfl
    exact backslash_notMem_normalize extension path (inside _ member)
  have lowered : lowercase (withSlash (stripExtension extension ('/' :: trimEnd later))) =
      withSlash (stripExtension extension ('/' :: trimEnd later)) :=
    lowercase_of_lowered fun c member => lowered_of_mem (inside c member)
  rw [normalize, again, slashes, lowered]

theorem normalize_of_visible (plain : PlainExtension extension) {path : List Char}
    (visible : endsVisibly (normalize extension path) = true) :
    normalize extension (normalize extension path) = normalize extension path := by
  obtain ⟨rest, ends, same, _⟩ := normalize_normalize_begins extension path
  have kept := @trimEnd_append _ [] visible nofun
  rw [List.append_nil] at kept
  rw [same, ← ends, kept, stripExtension_of_not (not_hasExtension_normalize plain path), ← kept, ends]
  rfl

theorem length_normalize_lt {path : List Char}
    (blank : endsVisibly (normalize extension path) = false) :
    (normalize extension (normalize extension path)).length < (normalize extension path).length := by
  obtain ⟨rest, ends, same, begins⟩ := normalize_normalize_begins extension path
  rw [same]
  exact Nat.lt_of_le_of_lt (ends ▸ begins.length_le) (length_trimEnd_lt blank)

/-- A normal path is normal itself exactly if no white space is left at its end. -/
theorem normalize_normalize_iff (plain : PlainExtension extension) (path : List Char) :
    normalize extension (normalize extension path) = normalize extension path ↔
      endsVisibly (normalize extension path) = true := by
  constructor
  · intro same
    by_contra blank
    have shorter := length_normalize_lt (Bool.not_eq_true _ ▸ blank)
    rw [same] at shorter
    exact Nat.lt_irrefl _ shorter
  · exact normalize_of_visible plain

theorem isBlank_slashed (c : Char) : isBlank (slashed c) = isBlank c := by
  unfold slashed
  split
  next same =>
    rw [same]
    decide
  next => rfl

theorem endsVisibly_normalize (extension path : List Char) :
    endsVisibly (normalize extension path) =
      endsVisibly (stripExtension extension (dropTilde (trim path))) := by
  unfold normalize
  dsimp only
  generalize stripExtension extension (dropTilde (trim path)) = bare
  have slash : isBlank '/' = false := by decide
  rw [endsVisibly_lowercase]
  unfold endsVisibly
  rw [List.getLast?_map, Option.all_map]
  simp only [isBlank_slashed]
  by_cases begins : bare.head? = some '/'
  · obtain ⟨rest, rfl⟩ := List.head?_eq_some_iff.mp begins
    rfl
  · rw [withSlash_of_ne begins]
    cases bare with
    | nil => simp [slash]
    | cons c rest => rw [List.getLast?_cons_cons]

theorem normalPath_again_iff {extension : String} (plain : PlainExtension extension.toList)
    (path : String) :
    normalPath extension (normalPath extension path) = normalPath extension path ↔
      endsVisibly (normalPath extension path).toList = true := by
  unfold normalPath
  rw [String.toList_ofList, ← normalize_normalize_iff plain]
  exact String.ofList_inj

end LiveViews.View
