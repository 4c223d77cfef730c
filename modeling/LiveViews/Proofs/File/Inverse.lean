import LiveViews.Proofs.Site.Confinement

/-!
From a file to its view path and back. The view path of a file below the root stands for that file
again, unless there is a tilde in front of the first name below the root; such a file has a view path,
but no view path stands for it (`leads_back_iff_untilded`).
-/

namespace LiveViews.File

open LiveViews.Text

/-! ### Names joined by slashes -/

theorem joinWith_begins (separator piece : List Char) (rest : List (List Char)) :
    piece <+: joinWith separator (piece :: rest) := by
  cases rest with
  | nil => exact List.prefix_rfl
  | cons next later =>
      show piece <+: piece ++ separator ++ joinWith separator (next :: later)
      rw [List.append_assoc]
      exact List.prefix_append _ _

theorem segments_joinWith {names : List (List Char)} (some : names ≠ [])
    (single : ∀ name ∈ names, '/' ∉ name) : segments (joinWith ['/'] names) = names := by
  induction names with
  | nil => exact absurd rfl some
  | cons name rest ih =>
      have here : segments name = [name] := by
        rw [segments_eq]
        exact List.splitOn_eq_singleton (single name List.mem_cons_self)
      cases rest with
      | nil => exact here
      | cons next later =>
          have after := ih (List.cons_ne_nil _ _) fun other member =>
            single other (List.mem_cons_of_mem _ member)
          show segments (name ++ ['/'] ++ joinWith ['/'] (next :: later)) = _
          rw [List.append_assoc, List.singleton_append, segments_slash, here, after]
          rfl

theorem partOf?_of_plainName {name : List Char} (plain : PlainName name) :
    partOf? name = some (.name name) := by
  unfold partOf?
  rw [if_neg (not_or.mpr ⟨plain.some, plain.here⟩), if_neg plain.up]

theorem parts_joinWith {names : List (List Char)} (plain : ∀ name ∈ names, PlainName name) :
    parts (joinWith ['/'] names) = names.map Part.name := by
  cases names with
  | nil => rfl
  | cons name rest =>
      have first := plain name List.mem_cons_self
      obtain ⟨c, later, rfl⟩ := List.exists_cons_of_ne_nil first.some
      obtain ⟨tail, begins⟩ := joinWith_begins ['/'] (c :: later) rest
      have split : segments (joinWith ['/'] ((c :: later) :: rest)) = (c :: later) :: rest :=
        segments_joinWith (List.cons_ne_nil _ _) fun other member => (plain other member).single
      have named : ((c :: later) :: rest).filterMap partOf? =
          ((c :: later) :: rest).map Part.name := by
        rw [← List.filterMap_eq_map]
        exact List.filterMap_congr fun other member => partOf?_of_plainName (plain other member)
      have relative : (joinWith ['/'] ((c :: later) :: rest)).head? ≠ some '/' := by
        rw [← begins]
        intro slash
        exact first.single (Option.some.inj slash ▸ List.mem_cons_self)
      have visible : ((c :: later) :: rest).head? ≠ some ['.'] := fun dot =>
        first.here (Option.some.inj dot)
      unfold parts
      dsimp only
      rw [split, named, if_neg relative, if_neg visible]

theorem parts_head? {c : Char} {rest : List Char}
    (names : (parts (c :: rest)).all isName = true) :
    ∃ later, (parts (c :: rest)).head? = some (.name (c :: later)) := by
  obtain ⟨relative, plain⟩ := parts_of_names names
  have visible : c ≠ '/' := fun slash => relative (congrArg some slash)
  obtain ⟨first, more, split⟩ := List.exists_cons_of_ne_nil (List.splitOn_ne_nil '/' rest)
  have segmented : segments (c :: rest) = (c :: first) :: more := by
    rw [segments_eq, List.splitOn_cons_eq_if_modifyHead, if_neg (by simpa using visible), split,
      List.modifyHead_cons]
  have dotted : (segments (c :: rest)).head? ≠ some ['.'] := by
    intro dot
    unfold parts at names
    dsimp only at names
    rw [if_neg relative, if_pos dot, List.all_cons] at names
    cases names
  rw [segmented] at dotted
  rw [plain, namesOf, segmented] at names ⊢
  have here : c :: first ≠ ['.'] := fun dot => dotted (congrArg some dot)
  have up : c :: first ≠ ['.', '.'] := by
    intro dots
    rw [List.filterMap_cons, dots] at names
    cases names
  have part : partOf? (c :: first) = some (.name (c :: first)) := by
    unfold partOf?
    rw [if_neg (not_or.mpr ⟨List.cons_ne_nil _ _, here⟩), if_neg up]
  exact ⟨first, by rw [List.filterMap_cons, part]; rfl⟩

/-! ### Below the root -/

theorem partsBelow?_eq_some {base whole below : List Part} :
    partsBelow? base whole = some below ↔ whole = base ++ below := by
  constructor
  · intro found
    induction base generalizing whole with
    | nil => exact Option.some.inj found
    | cons part rest ih =>
        cases whole with
        | nil => cases found
        | cons other later =>
            rw [partsBelow?] at found
            split at found
            next same => rw [ih found, same, List.cons_append]
            next => cases found
  · rintro rfl
    exact partsBelow?_append base below

theorem virtualPath?_eq_none {root file : List Char} :
    virtualPath? root file = none ↔ ¬parts root <+: parts file := by
  unfold virtualPath?
  rw [Option.map_eq_none_iff, Option.eq_none_iff_forall_ne_some]
  constructor
  · rintro outside ⟨below, same⟩
    exact outside below (partsBelow?_eq_some.mpr same.symm)
  · intro outside below found
    exact outside ⟨below, (partsBelow?_eq_some.mp found).symm⟩

theorem virtualPath?_of_names {root file : List Char} {names : List (List Char)}
    (below : parts file = parts root ++ names.map Part.name) :
    virtualPath? root file = some ('/' :: joinWith ['/'] names) := by
  unfold virtualPath?
  rw [partsBelow?_eq_some.mpr below, Option.map_some, List.map_map]
  have texts : names.map (Part.text ∘ Part.name) = names := List.map_id names
  rw [texts]

/-! ### There and back -/

theorem plainName_of_part {path name : List Char} (member : Part.name name ∈ parts path) :
    PlainName name := by
  apply @plainName_of_mem path
  unfold parts at member
  dsimp only at member
  split at member
  · exact (List.mem_cons.mp member).resolve_left nofun
  · split at member
    · exact (List.mem_cons.mp member).resolve_left nofun
    · exact member

/-- Whether there is a tilde in front of the first name. -/
def tilded : List (List Char) → Bool
  | ('~' :: _) :: _ => true
  | _ => false

theorem tilded_cons_cons {c : Char} {later : List Char} {rest : List (List Char)} :
    tilded ((c :: later) :: rest) = true ↔ c = '~' := by
  constructor
  · intro tilde
    unfold tilded at tilde
    split at tilde
    next same => cases same; rfl
    next => cases tilde
  · rintro rfl
    rfl

theorem relative_joinWith {names : List (List Char)} (plain : ∀ name ∈ names, PlainName name)
    (untilded : tilded names = false) :
    relative ('/' :: joinWith ['/'] names) = joinWith ['/'] names := by
  have slash : isAnchor '/' = true := rfl
  rw [relative, List.dropWhile_cons_of_pos slash]
  cases names with
  | nil => rfl
  | cons name rest =>
      have first := plain name List.mem_cons_self
      obtain ⟨c, later, rfl⟩ := List.exists_cons_of_ne_nil first.some
      obtain ⟨tail, begins⟩ := joinWith_begins ['/'] (c :: later) rest
      have other : c ≠ '~' := fun tilde => by
        rw [tilded_cons_cons.mpr tilde] at untilded
        cases untilded
      have inner : c ≠ '/' := fun same => first.single (same ▸ List.mem_cons_self)
      rw [← begins, List.cons_append, List.dropWhile_cons_of_neg (by simp [isAnchor, other, inner])]

theorem parts_located_back {root : List Char} {names : List (List Char)}
    (plain : ∀ name ∈ names, PlainName name) (untilded : tilded names = false) :
    (locate? root ('/' :: joinWith ['/'] names)).map parts =
      some (parts root ++ names.map Part.name) := by
  have joined := parts_joinWith plain
  have allNames : (parts (joinWith ['/'] names)).all isName = true := by
    rw [joined, List.all_map]
    exact List.all_eq_true.mpr fun _ _ => rfl
  unfold locate?
  rw [relative_joinWith plain untilded, if_pos allNames, Option.map_some, parts_join root allNames,
    joined]

theorem located_untilded {root path file : List Char} {names : List (List Char)}
    (below : parts file = parts root ++ names.map Part.name)
    (leads : (locate? root path).map parts = some (parts file)) : tilded names = false := by
  obtain ⟨located, found, same⟩ := Option.map_eq_some_iff.mp leads
  have allNames := (locate?_eq_some found).1
  rw [parts_located found, below] at same
  have names := List.append_cancel_left same
  rw [Bool.eq_false_iff]
  intro tilde
  unfold tilded at tilde
  split at tilde
  next rest more =>
    cases stripped : relative path with
    | nil =>
        rw [stripped] at names
        cases names
    | cons c later =>
        rw [stripped] at names allNames
        obtain ⟨first, begins⟩ := parts_head? allNames
        rw [names, List.map_cons, List.head?_cons, Option.some.injEq, Part.name.injEq] at begins
        have anchored := List.head?_dropWhile_not isAnchor path
        have here : path.dropWhile isAnchor = c :: later := stripped
        rw [here] at anchored
        rw [← (List.cons.inj begins).1] at anchored
        cases anchored
  next => cases tilde

/-- The view path of a file below the root stands for that file exactly if there is no tilde in
front of its first name there; if there is one, no view path stands for it. Files that are not below
the root have no view path. -/
theorem leads_back_iff_untilded (root file : List Char) :
    (∀ names : List (List Char), parts file = parts root ++ names.map Part.name →
      ∃ path, virtualPath? root file = some path ∧
        ((locate? root path).map parts = some (parts file) ↔ tilded names = false) ∧
        (tilded names = true → ∀ other, (locate? root other).map parts ≠ some (parts file))) ∧
    (virtualPath? root file = none ↔ ¬parts root <+: parts file) := by
  refine ⟨?_, virtualPath?_eq_none⟩
  intro names below
  refine ⟨_, virtualPath?_of_names below, ⟨located_untilded below, ?_⟩, ?_⟩
  · intro untilded
    rw [below]
    refine parts_located_back ?_ untilded
    intro name member
    apply @plainName_of_part file
    rw [below]
    exact List.mem_append_right _ (List.mem_map_of_mem member)
  · intro tilde other leads
    rw [located_untilded below leads] at tilde
    cases tilde

theorem leads_back_iff_untilded_inner :
    parts "/v/b/~a.liquid".toList = parts "/v".toList ++
      ["b".toList, "~a.liquid".toList].map Part.name ∧
    ∃ path, virtualPath? "/v".toList "/v/b/~a.liquid".toList = some path ∧
      (locate? "/v".toList path).map parts = some (parts "/v/b/~a.liquid".toList) := by
  have below : parts "/v/b/~a.liquid".toList = parts "/v".toList ++
      ["b".toList, "~a.liquid".toList].map Part.name := by decide
  obtain ⟨path, found, leads, -⟩ :=
    (leads_back_iff_untilded "/v".toList "/v/b/~a.liquid".toList).1 _ below
  exact ⟨below, path, found, leads.mpr (by decide)⟩

/-- The view path of such a file stands for another one. -/
theorem tilde_leads_elsewhere :
    parts "/v/~a.liquid".toList = parts "/v".toList ++ ["~a.liquid".toList].map Part.name ∧
    virtualPath? "/v".toList "/v/~a.liquid".toList = some "/~a.liquid".toList ∧
    locate? "/v".toList "/~a.liquid".toList = some "/v/a.liquid".toList ∧
    parts "/v/a.liquid".toList ≠ parts "/v/~a.liquid".toList := by
  decide

end LiveViews.File
