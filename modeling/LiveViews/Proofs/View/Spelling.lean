import LiveViews.Proofs.File.Paths
import LiveViews.Proofs.Text.Trim
import LiveViews.View.Path

/-!
Spellings of view paths. A path that says each name once, behind a tilde or a slash or neither, has
the normal path of the file that it stands for (`normalize_plainPath`).
-/

namespace LiveViews.View

open LiveViews.Text LiveViews.File

variable {extension : List Char}

theorem hasExtension_iff {path : List Char} : hasExtension extension path = true ↔
    extension ≠ [] ∧ extension.map Char.toLower <:+ path.map Char.toLower := by
  unfold hasExtension sameLetters
  simp only [Bool.and_eq_true, Bool.not_eq_true', List.isEmpty_eq_false_iff, decide_eq_true_eq]
  rw [List.suffix_iff_eq_drop, List.length_map, List.length_map, ← List.map_drop]
  constructor
  · rintro ⟨⟨some, _⟩, same⟩
    exact ⟨some, same.symm⟩
  · rintro ⟨some, same⟩
    have sameLength := congrArg List.length same
    rw [List.length_map, List.length_map, List.length_drop] at sameLength
    exact ⟨⟨some, by omega⟩, same.symm⟩

theorem hasExtension_append (front : List Char) {name : List Char}
    (carries : hasExtension extension name = true) :
    hasExtension extension (front ++ name) = true := by
  obtain ⟨some, ends⟩ := hasExtension_iff.mp carries
  rw [hasExtension_iff, List.map_append]
  exact ⟨some, ends.trans (List.suffix_append _ _)⟩

theorem toLower_eq_slash {c : Char} (lower : c.toLower = '/') : c = '/' := by
  unfold Char.toLower at lower
  split at lower
  next upper =>
    have least : 'A'.val.toNat ≤ c.val.toNat := UInt32.le_iff_toNat_le.mp upper.1
    have greatest : c.val.toNat ≤ 'Z'.val.toNat := UInt32.le_iff_toNat_le.mp upper.2
    have code := congrArg (fun c : Char => c.val.toNat) lower
    simp only [UInt32.toNat_add] at code
    have shift : ('a'.val - 'A'.val).toNat = 32 := by decide
    have first : 'A'.val.toNat = 65 := by decide
    have last : 'Z'.val.toNat = 90 := by decide
    have slash : '/'.val.toNat = 47 := by decide
    omega
  next => exact lower

theorem relative_of_carries {name : List Char} (carries : hasExtension extension name = true)
    (inner : '/' ∉ name) : extension.head? ≠ some '/' := by
  intro begins
  obtain ⟨rest, rfl⟩ := List.head?_eq_some_iff.mp begins
  have member := (hasExtension_iff.mp carries).2.subset List.mem_cons_self
  obtain ⟨c, known, lower⟩ := List.mem_map.mp member
  exact inner (toLower_eq_slash lower ▸ known)

theorem stripExtension_begins (path : List Char) : stripExtension extension path <+: path := by
  fun_induction stripExtension extension path with
  | case1 path found ih => exact ih.trans (List.take_prefix _ _)
  | case2 => exact List.prefix_rfl

theorem hasExtension_slash (relative : extension.head? ≠ some '/') (path : List Char) :
    hasExtension extension ('/' :: path) = hasExtension extension path := by
  rw [Bool.eq_iff_iff]
  constructor
  · intro carries
    obtain ⟨some, ends⟩ := hasExtension_iff.mp carries
    rw [List.map_cons, List.suffix_cons_iff] at ends
    rcases ends with whole | inner
    · obtain ⟨c, rest, rfl⟩ := List.exists_cons_of_ne_nil some
      rw [List.map_cons, List.cons.injEq] at whole
      have slash : c = '/' := toLower_eq_slash whole.1
      exact absurd (congrArg Option.some slash) relative
    · exact hasExtension_iff.mpr ⟨some, inner⟩
  · exact hasExtension_append ['/']

theorem stripExtension_slash (relative : extension.head? ≠ some '/') (path : List Char) :
    stripExtension extension ('/' :: path) = '/' :: stripExtension extension path := by
  fun_induction stripExtension extension path with
  | case1 path found ih =>
      have fits : extension.length ≤ path.length := by
        have shorter := (hasExtension_iff.mp found).2.length_le
        rwa [List.length_map, List.length_map] at shorter
      have length : ('/' :: path).length - extension.length =
          path.length - extension.length + 1 := by
        rw [List.length_cons]
        omega
      rw [stripExtension, if_pos ((hasExtension_slash relative path).trans found), length,
        List.take_succ_cons]
      exact ih
  | case2 path other =>
      rw [stripExtension, hasExtension_slash relative, if_neg other]

theorem withSlash_of_ne {path : List Char} (relative : path.head? ≠ some '/') :
    withSlash path = '/' :: path := by
  unfold withSlash
  split
  · simp at relative
  · rfl

theorem withSlash_strip (relative : extension.head? ≠ some '/') (path : List Char) :
    withSlash (stripExtension extension (trimEnd (withSlash path))) =
      withSlash (stripExtension extension (trimEnd path)) := by
  by_cases begins : path.head? = some '/'
  · obtain ⟨rest, rfl⟩ := List.head?_eq_some_iff.mp begins
    rfl
  · have shorter : stripExtension extension (trimEnd path) <+: path :=
      (stripExtension_begins _).trans (trimEnd_begins path)
    have inner : (stripExtension extension (trimEnd path)).head? ≠ some '/' := by
      intro same
      obtain ⟨rest, cut⟩ := List.head?_eq_some_iff.mp same
      rw [cut] at shorter
      obtain ⟨more, whole⟩ := shorter
      rw [← whole] at begins
      exact begins rfl
    have visible : isBlank '/' = false := by decide
    rw [withSlash_of_ne begins, trimEnd_cons visible, stripExtension_slash relative,
      withSlash_of_ne inner]
    rfl

def startsVisibly (path : List Char) : Bool :=
  path.head?.all fun c => !isBlank c

theorem dropTilde_cons_of_ne {c : Char} (other : c ≠ '~') (rest : List Char) :
    dropTilde (c :: rest) = c :: rest := by
  unfold dropTilde
  split
  next same => exact absurd (List.cons.inj same).1 other
  next => rfl

theorem dropTilde_ends (path : List Char) :
    ∃ tilde, (tilde = [] ∨ tilde = ['~']) ∧ path = tilde ++ dropTilde path := by
  cases path with
  | nil => exact ⟨[], Or.inl rfl, rfl⟩
  | cons c rest =>
      by_cases same : c = '~'
      · exact ⟨['~'], Or.inr rfl, by rw [same]; rfl⟩
      · exact ⟨[], Or.inl rfl, by rw [dropTilde_cons_of_ne same, List.nil_append]⟩

theorem dropTilde_trim {path : List Char} (visible : startsVisibly path = true) :
    dropTilde (trim path) = trimEnd (dropTilde path) := by
  cases path with
  | nil => rfl
  | cons c rest =>
      have seen : isBlank c = false := by simpa [startsVisibly] using visible
      have kept : trimStart (c :: rest) = c :: rest := by
        simp [trimStart, seen]
      rw [trim, kept, trimEnd_cons seen]
      by_cases tilde : c = '~'
      · rw [tilde]
        rfl
      · rw [dropTilde_cons_of_ne tilde, dropTilde_cons_of_ne tilde, trimEnd_cons seen]

theorem normalize_eq (relative : extension.head? ≠ some '/') {path : List Char}
    (visible : startsVisibly path = true) : normalize extension path =
      lowercase ((withSlash (stripExtension extension
        (trimEnd (withSlash (dropTilde path))))).map slashed) := by
  unfold normalize
  dsimp only
  rw [dropTilde_trim visible, withSlash_strip relative]

structure PlainlySpelled (path : List Char) : Prop where
  visible : startsVisibly path = true
  plain : withSlash (dropTilde path) = plainPath path

theorem normalize_plainPath (relative : extension.head? ≠ some '/') {path : List Char}
    (spelled : PlainlySpelled path) :
    normalize extension path = normalize extension (plainPath path) := by
  have visible : startsVisibly (plainPath path) = true := by
    simp [startsVisibly, plainPath, isBlank, inRanges, blankRanges]
  rw [normalize_eq relative spelled.visible, normalize_eq relative visible, spelled.plain]
  rfl

end LiveViews.View
