import LiveViews.File.Tree
import Mathlib.Data.List.Basic

/-!
Paths of view files. A view path stands for one file below a root, and that file for one view path:
the names between the slashes, each once, behind a single slash (`virtualPath?_located`).
-/

namespace LiveViews.File

open LiveViews.Text

theorem piecesAfter_slash (current path : List Char) :
    piecesAfter ['/'] 0 current path = List.splitOnPPrepend (· == '/') path current := by
  induction path generalizing current with
  | nil => rfl
  | cons c rest ih =>
      rw [piecesAfter, List.splitOnPPrepend_cons_eq_if, ih, List.splitOnP_eq_splitOnPPrepend, ← ih]
      by_cases slash : c = '/'
      · simp [slash, stripPrefix?, ih]
      · have other : '/' ≠ c := fun same => slash same.symm
        simp [slash, other, stripPrefix?]

theorem segments_eq (path : List Char) : segments path = path.splitOn '/' := by
  rw [List.splitOn_eq_splitOnP, List.splitOnP_eq_splitOnPPrepend]
  exact piecesAfter_slash [] path

theorem segments_slash (front rest : List Char) :
    segments (front ++ '/' :: rest) = segments front ++ segments rest := by
  rw [segments_eq, segments_eq, segments_eq]
  exact List.splitOn_append_cons_self front rest

theorem slash_notMem_segment {path segment : List Char} (member : segment ∈ segments path) :
    '/' ∉ segment := by
  rw [segments_eq] at member
  induction path generalizing segment with
  | nil => simp [List.mem_singleton.mp member]
  | cons c rest ih =>
      rw [List.splitOn_cons_eq_if_modifyHead] at member
      split at member
      · rcases List.mem_cons.mp member with rfl | later
        · simp
        · exact ih later
      next other =>
        obtain ⟨first, later, split⟩ := List.exists_cons_of_ne_nil (List.splitOn_ne_nil '/' rest)
        have apart : '/' ≠ c := fun same => other (beq_iff_eq.mpr same.symm)
        rw [split, List.modifyHead_cons] at member
        rcases List.mem_cons.mp member with rfl | old
        · have before : '/' ∉ first := ih (split ▸ List.mem_cons_self)
          simp [apart, before]
        · exact ih (split ▸ List.mem_cons_of_mem _ old)

def namesOf (path : List Char) : List Part :=
  (segments path).filterMap partOf?

theorem namesOf_slash (front rest : List Char) :
    namesOf (front ++ '/' :: rest) = namesOf front ++ namesOf rest := by
  unfold namesOf
  rw [segments_slash, List.filterMap_append]

theorem parts_slash {front : List Char} (some : front ≠ []) (rest : List Char) :
    parts (front ++ '/' :: rest) = parts front ++ namesOf rest := by
  obtain ⟨c, later, rfl⟩ := List.exists_cons_of_ne_nil some
  have first : (segments (c :: later ++ '/' :: rest)).head? = (segments (c :: later)).head? := by
    rw [segments_slash, List.head?_append_of_ne_nil]
    rw [segments_eq]
    exact List.splitOn_ne_nil _ _
  have names := namesOf_slash (c :: later) rest
  unfold namesOf at names
  unfold parts
  rw [first, names, List.cons_append, List.head?_cons, List.head?_cons]
  dsimp only
  split
  · rfl
  · split <;> rfl

theorem parts_of_names {path : List Char} (names : (parts path).all isName = true) :
    path.head? ≠ some '/' ∧ parts path = namesOf path := by
  unfold parts at names ⊢
  dsimp only at names ⊢
  split at names
  · simp [isName] at names
  next relative =>
    rw [if_neg relative]
    refine ⟨relative, ?_⟩
    split at names
    · simp [isName] at names
    next plain => rw [if_neg plain, namesOf]

theorem join_cases (base : List Char) {rest : List Char} (relative : rest.head? ≠ some '/') :
    (base = [] ∧ join base rest = rest) ∨
    (base ≠ [] ∧ join base rest = base ++ '/' :: rest) ∨
    ∃ front, base = front ++ ['/'] ∧ join base rest = front ++ '/' :: rest := by
  unfold join
  rw [if_neg relative]
  split
  next ends =>
    rcases ends with rfl | last
    · exact Or.inl ⟨rfl, rfl⟩
    · obtain ⟨front, rfl⟩ := List.getLast?_eq_some_iff.mp last
      refine Or.inr (Or.inr ⟨front, rfl, ?_⟩)
      rw [List.append_assoc, List.singleton_append]
  next inner => exact Or.inr (Or.inl ⟨fun empty => inner (Or.inl empty), rfl⟩)

theorem parts_join (base : List Char) {rest : List Char}
    (names : (parts rest).all isName = true) : parts (join base rest) = parts base ++ parts rest := by
  obtain ⟨relative, plain⟩ := parts_of_names names
  rcases join_cases base relative with ⟨rfl, same⟩ | ⟨some, same⟩ | ⟨front, rfl, same⟩
  · rw [same]
    rfl
  · rw [same, plain]
    exact parts_slash some rest
  · rw [same, plain]
    cases front with
    | nil => exact congrArg (Part.root :: ·) (namesOf_slash [] rest)
    | cons c later =>
        have nothing : namesOf [] = [] := rfl
        rw [parts_slash (List.cons_ne_nil c later), parts_slash (List.cons_ne_nil c later),
          nothing, List.append_nil]

theorem partsBelow?_append (base below : List Part) :
    partsBelow? base (base ++ below) = some below := by
  induction base with
  | nil => rfl
  | cons part rest ih =>
      rw [List.cons_append, partsBelow?, if_pos rfl]
      exact ih

def plainPath (path : List Char) : List Char :=
  '/' :: joinWith ['/'] ((parts (relative path)).map Part.text)

theorem locate?_eq_some {root path located : List Char} (found : locate? root path = some located) :
    (parts (relative path)).all isName = true ∧ located = join root (relative path) := by
  unfold locate? at found
  split at found
  next names => exact ⟨names, (Option.some.inj found).symm⟩
  next => cases found

theorem parts_located {root path located : List Char} (found : locate? root path = some located) :
    parts located = parts root ++ parts (relative path) := by
  obtain ⟨names, rfl⟩ := locate?_eq_some found
  exact parts_join root names

theorem virtualPath?_located {root path located file : List Char}
    (found : locate? root path = some located) (same : parts file = parts located) :
    virtualPath? root file = some (plainPath path) := by
  unfold virtualPath?
  rw [same, parts_located found, partsBelow?_append]
  rfl

namespace Tree

variable {tree : Tree} {place : Place}

theorem follow_append (entry : Entry) (front rest : List (List Char)) :
    tree.follow place entry (front ++ rest) =
      (tree.follow place entry front).bind fun found => tree.follow found.1 found.2 rest := by
  induction front generalizing place entry with
  | nil => rfl
  | cons segment later ih =>
      rw [List.cons_append]
      cases entry with
      | file bytes modified => rfl
      | directory =>
          simp only [follow]
          split
          · exact ih _
          · split
            · exact ih _
            · split
              · rfl
              · cases tree.entry? (place ++ [segment]) with
                | none => rfl
                | some next => exact ih next

theorem follow_dots {segments : List (List Char)}
    (dots : ∀ segment ∈ segments, segment = [] ∨ segment = ['.']) :
    tree.follow place .directory segments = .ok (place, .directory) := by
  induction segments with
  | nil => rfl
  | cons segment rest ih =>
      rw [follow, if_pos (dots segment List.mem_cons_self)]
      exact ih fun other member => dots other (List.mem_cons_of_mem _ member)

theorem follow_ends {entry : Entry} {front dots : List (List Char)} (some : dots ≠ [])
    (nothing : ∀ segment ∈ dots, segment = [] ∨ segment = ['.']) (found : Place)
    (bytes : ByteArray) (modified : Int) :
    tree.follow place entry (front ++ dots) ≠ .ok (found, .file bytes modified) := by
  rw [follow_append]
  rcases tree.follow place entry front with error | ⟨other, _ | _⟩
  · simp [Except.bind]
  · obtain ⟨segment, rest, rfl⟩ := List.exists_cons_of_ne_nil some
    simp [Except.bind, follow]
  · simp [Except.bind, follow_dots nothing]

end Tree

theorem namesOf_eq_nil {path : List Char} (nameless : namesOf path = []) :
    ∀ segment ∈ segments path, segment = [] ∨ segment = ['.'] := by
  intro segment member
  have none := List.filterMap_eq_nil_iff.mp nameless segment member
  unfold partOf? at none
  split at none
  next nothing => exact nothing
  next => split at none <;> cases none

theorem parts_ne_nil_of_read {tree : Tree} {root path located : List Char} {bytes : ByteArray}
    {modified : Int} (found : locate? root path = some located)
    (read : tree.read located = .ok (bytes, modified)) : parts (relative path) ≠ [] := by
  intro nameless
  obtain ⟨names, rfl⟩ := locate?_eq_some found
  obtain ⟨relativeRest, plain⟩ := parts_of_names names
  have dots := namesOf_eq_nil (plain ▸ nameless)
  have some : segments (relative path) ≠ [] := by
    rw [segments_eq]
    exact List.splitOn_ne_nil _ _
  obtain ⟨front, split⟩ : ∃ front,
      segments (join root (relative path)) = front ++ segments (relative path) := by
    rcases join_cases root relativeRest with ⟨_, same⟩ | ⟨_, same⟩ | ⟨front, _, same⟩
    · exact ⟨[], by rw [same, List.nil_append]⟩
    · exact ⟨segments root, by rw [same, segments_slash]⟩
    · exact ⟨segments front, by rw [same, segments_slash]⟩
  unfold Tree.read Tree.find at read
  rw [split] at read
  split at read
  next place bytes' modified' answer =>
    split at answer
    · cases answer
    · split at answer
      · cases answer
      · exact Tree.follow_ends some dots _ _ _ answer
  · cases read
  · cases read

theorem joinWith_getLast? {separator last : List Char} {pieces : List (List Char)}
    (ends : pieces.getLast? = some last) : ∃ front, joinWith separator pieces = front ++ last := by
  induction pieces with
  | nil => cases ends
  | cons piece rest ih =>
      cases rest with
      | nil => exact ⟨[], Option.some.inj ends⟩
      | cons next later =>
          rw [List.getLast?_cons_cons] at ends
          obtain ⟨front, same⟩ := ih ends
          refine ⟨piece ++ separator ++ front, ?_⟩
          show piece ++ separator ++ joinWith separator (next :: later) = _
          rw [same, List.append_assoc _ front]

end LiveViews.File
