import LiveViews.Proofs.View.Normal

/-!
Separators. A backslash stands for a slash everywhere in a path but at its front: there it is not
taken for the slash that a normal path begins with, which then gets two (`separators_alike_iff`).
-/

namespace LiveViews.View

open LiveViews.Text

variable {extension : List Char}

/-! ### Slashes for backslashes -/

theorem slashed_slashed (c : Char) : slashed (slashed c) = slashed c := by
  by_cases same : c = '\\'
  · rw [same]
    rfl
  · have kept : slashed c = c := if_neg same
    rw [kept, kept]

theorem map_slashed_twice (path : List Char) : (path.map slashed).map slashed = path.map slashed := by
  rw [List.map_map]
  exact List.map_congr_left fun c _ => slashed_slashed c

theorem trim_map_slashed (path : List Char) : trim (path.map slashed) = (trim path).map slashed := by
  have blank : isBlank ∘ slashed = isBlank := funext isBlank_slashed
  unfold trim trimEnd trimStart
  rw [List.dropWhile_map, blank, ← List.map_reverse, List.dropWhile_map, blank, List.map_reverse]

theorem slashed_eq_tilde {c : Char} : slashed c = '~' ↔ c = '~' := by
  unfold slashed
  split
  next same => simp [same]
  next => rfl

theorem dropTilde_map_slashed (path : List Char) :
    dropTilde (path.map slashed) = (dropTilde path).map slashed := by
  cases path with
  | nil => rfl
  | cons c rest =>
      by_cases tilde : c = '~'
      · rw [tilde]
        rfl
      · rw [List.map_cons, dropTilde_cons_of_ne tilde,
          dropTilde_cons_of_ne (mt slashed_eq_tilde.mp tilde), List.map_cons]

/-- An extension that lies in one part of a path. -/
def Undivided (extension : List Char) : Prop :=
  ∀ c ∈ extension, c ≠ '/' ∧ c ≠ '\\'

instance (extension : List Char) : Decidable (Undivided extension) :=
  List.decidableBAll _ _

theorem toLower_eq_backslash {c : Char} : c.toLower = '\\' → c = '\\' := by
  refine toLower_cases (motive := fun c lower => lower = '\\' → c = '\\') (fun _ _ => id) ?_ c
  decide

theorem Undivided.relative (undivided : Undivided extension) : extension.head? ≠ some '/' :=
  fun slash => (undivided '/' (List.mem_of_head? slash)).1 rfl

theorem Undivided.notMem_toLower (undivided : Undivided extension) :
    '/' ∉ extension.map Char.toLower ∧ '\\' ∉ extension.map Char.toLower := by
  constructor
  · intro member
    obtain ⟨c, known, lower⟩ := List.mem_map.mp member
    exact (undivided c known).1 (toLower_eq_slash lower)
  · intro member
    obtain ⟨c, known, lower⟩ := List.mem_map.mp member
    exact (undivided c known).2 (toLower_eq_backslash lower)

theorem hasExtension_map_slashed (undivided : Undivided extension) (path : List Char) :
    hasExtension extension (path.map slashed) = hasExtension extension path := by
  obtain ⟨slash, backslash⟩ := undivided.notMem_toLower
  rw [Bool.eq_iff_iff, hasExtension_iff, hasExtension_iff, List.map_map]
  have kept {c : Char} (other : c ≠ '\\') : (Char.toLower ∘ slashed) c = c.toLower := by
    rw [Function.comp_apply, slashed, if_neg other]
  refine and_congr_right fun _ => ⟨fun ends => suffix_map_congr ends ?_,
    fun ends => suffix_map_congr ends ?_⟩
  · intro c member
    refine (kept fun same => slash ?_).symm
    rw [same] at member
    exact member
  · intro c member
    refine kept fun same => backslash ?_
    rw [same] at member
    exact member

theorem stripExtension_map_slashed (undivided : Undivided extension) (path : List Char) :
    stripExtension extension (path.map slashed) = (stripExtension extension path).map slashed := by
  fun_induction stripExtension extension path with
  | case1 path found ih =>
      rw [stripExtension_of_has ((hasExtension_map_slashed undivided path).trans found), ← ih,
        List.length_map, List.map_take]
  | case2 path other =>
      rw [Bool.not_eq_true] at other
      exact stripExtension_of_not ((hasExtension_map_slashed undivided path).trans other)

/-! ### A backslash at the front -/

/-- A path with a backslash at its front, behind white space and a tilde. -/
inductive Backslashed : List Char → Prop where
  | intro {before tilde rest : List Char} : (∀ c ∈ before, isBlank c = true) →
      tilde = [] ∨ tilde = ['~'] → Backslashed (before ++ (tilde ++ '\\' :: rest))

theorem backslashed_iff {path : List Char} :
    Backslashed path ↔ (dropTilde (trim path)).head? = some '\\' := by
  have seen : isBlank '\\' = false ∧ isBlank '~' = false := by decide
  constructor
  · rintro @⟨before, tilde, rest, blank, tildes⟩
    rw [trim, trimStart, List.dropWhile_append_of_pos blank]
    rcases tildes with rfl | rfl
    · rw [List.nil_append, List.dropWhile_cons_of_neg (by simp [seen.1]), trimEnd_cons seen.1]
      rfl
    · rw [List.singleton_append, List.dropWhile_cons_of_neg (by simp [seen.2]),
        trimEnd_cons seen.2, trimEnd_cons seen.1]
      rfl
  · intro first
    obtain ⟨more, begins⟩ := trimEnd_begins (trimStart path)
    have whole : path.takeWhile isBlank ++ (trim path ++ more) = path := by
      rw [trim, begins]
      exact List.takeWhile_append_dropWhile
    have blank : ∀ c ∈ path.takeWhile isBlank, isBlank c = true := fun c =>
      List.mem_takeWhile_imp
    obtain ⟨tilde, tildes, kept⟩ := dropTilde_ends (trim path)
    obtain ⟨rest, here⟩ := List.head?_eq_some_iff.mp first
    rw [kept, here, List.append_assoc, List.cons_append] at whole
    rw [← whole]
    exact .intro blank tildes

theorem head?_stripExtension (undivided : Undivided extension) {path : List Char}
    (first : path.head? = some '\\') : (stripExtension extension path).head? = some '\\' := by
  obtain ⟨rest, rfl⟩ := List.head?_eq_some_iff.mp first
  have mapped := stripExtension_map_slashed undivided ('\\' :: rest)
  have slash : slashed '\\' = '/' := rfl
  rw [List.map_cons, slash, stripExtension_slash undivided.relative] at mapped
  cases bare : stripExtension extension ('\\' :: rest) with
  | nil =>
      rw [bare] at mapped
      cases mapped
  | cons c later =>
      obtain ⟨more, begins⟩ := @stripExtension_begins extension ('\\' :: rest)
      rw [bare, List.cons_append] at begins
      rw [(List.cons.inj begins).1, List.head?_cons]

theorem withSlash_map_slashed {path : List Char} (other : path.head? ≠ some '\\') :
    withSlash (path.map slashed) = (withSlash path).map slashed := by
  by_cases begins : path.head? = some '/'
  · obtain ⟨rest, rfl⟩ := List.head?_eq_some_iff.mp begins
    rfl
  · have alike : (path.map slashed).head? ≠ some '/' := by
      rw [List.head?_map]
      intro slash
      obtain ⟨c, first, same⟩ := Option.map_eq_some_iff.mp slash
      unfold slashed at same
      split at same
      next backslash => exact other (backslash ▸ first)
      next => exact begins (same ▸ first)
    rw [withSlash_of_ne alike, withSlash_of_ne begins]
    rfl

theorem normalize_map_slashed (undivided : Undivided extension) (path : List Char) :
    normalize extension (path.map slashed) =
      lowercase ((withSlash ((stripExtension extension (dropTilde (trim path))).map slashed)).map
        slashed) := by
  unfold normalize
  dsimp only
  rw [trim_map_slashed, dropTilde_map_slashed, stripExtension_map_slashed undivided]

theorem normalize_of_not_backslashed (undivided : Undivided extension) {path : List Char}
    (front : ¬Backslashed path) :
    normalize extension (path.map slashed) = normalize extension path := by
  have other : (stripExtension extension (dropTilde (trim path))).head? ≠ some '\\' := by
    intro first
    obtain ⟨more, begins⟩ := @stripExtension_begins extension (dropTilde (trim path))
    refine front (backslashed_iff.mpr ?_)
    rw [← begins, List.head?_append, first]
    rfl
  rw [normalize_map_slashed undivided, withSlash_map_slashed other, map_slashed_twice, normalize]

theorem normalize_of_backslashed (undivided : Undivided extension) {path : List Char}
    (front : Backslashed path) :
    normalize extension path = '/' :: normalize extension (path.map slashed) := by
  have first := head?_stripExtension undivided (backslashed_iff.mp front)
  obtain ⟨rest, bare⟩ := List.head?_eq_some_iff.mp first
  have own : normalize extension path = lowercase ('/' :: '/' :: rest.map slashed) := by
    rw [normalize, bare, withSlash_of_ne (by simp)]
    rfl
  have alike : normalize extension (path.map slashed) =
      lowercase ('/' :: (rest.map slashed).map slashed) := by
    rw [normalize_map_slashed undivided, bare]
    rfl
  rw [own, alike, map_slashed_twice, lowercase_slash]

def slashedPath (path : String) : String :=
  String.ofList (path.toList.map slashed)

/-- A path and the same path with slashes for its backslashes have one normal path exactly if there is
no backslash at the front; if there is one, the normal path has one slash too many. -/
theorem separators_alike_iff {extension : String} (undivided : Undivided extension.toList)
    (path : String) :
    (normalPath extension (slashedPath path) = normalPath extension path ↔
      ¬Backslashed path.toList) ∧
    (Backslashed path.toList →
      normalPath extension path = "/" ++ normalPath extension (slashedPath path)) := by
  have longer (front : Backslashed path.toList) :
      normalPath extension path = "/" ++ normalPath extension (slashedPath path) := by
    unfold normalPath slashedPath
    rw [String.toList_ofList, normalize_of_backslashed undivided front, ← List.singleton_append,
      String.ofList_append]
  refine ⟨⟨?_, ?_⟩, longer⟩
  · intro alike front
    have lengths := congrArg String.length (longer front)
    rw [alike, String.length_append] at lengths
    have slash : "/".length = 1 := rfl
    omega
  · intro front
    unfold normalPath slashedPath
    rw [String.toList_ofList, normalize_of_not_backslashed undivided front]

theorem separators_alike_iff_inner : Undivided ".liquid".toList ∧
    normalPath ".liquid" (slashedPath " ~Home\\Index\\.Liquid") =
      normalPath ".liquid" " ~Home\\Index\\.Liquid" := by
  have undivided : Undivided ".liquid".toList := by decide
  refine ⟨undivided, (separators_alike_iff undivided _).1.mpr ?_⟩
  rw [backslashed_iff]
  decide

/-- With a backslash for its first slash, a path has another normal path. -/
theorem backslash_doubles_slash : Undivided ".liquid".toList ∧
    slashedPath "\\home" = "/home" ∧
    normalPath ".liquid" "\\home" = "//home" ∧
    normalPath ".liquid" (slashedPath "\\home") = "/home" := by
  decide +kernel

end LiveViews.View
