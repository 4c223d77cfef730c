import LiveViews.Proofs.File.Paths
import LiveViews.Site.Source

/-!
Confinement of the fallback. Whatever path is asked for, what is read lies below the root: the file's
path goes on from the root's by plain names alone. A path is refused exactly if it goes up, or begins
with a dot of its own (`reads_below_root`).
-/

namespace LiveViews

open LiveViews.Text

namespace File

/-- A name of one entry, which leads one step down. -/
structure PlainName (name : List Char) : Prop where
  some : name ≠ []
  here : name ≠ ['.']
  up : name ≠ ['.', '.']
  single : '/' ∉ name

/-- The path of the file says where the root is, and goes down from there by names. -/
def Below (root file : List Char) : Prop :=
  ∃ names : List (List Char), parts file = parts root ++ names.map Part.name ∧
    ∀ name ∈ names, PlainName name

theorem partOf?_eq_name {segment name : List Char} (part : partOf? segment = some (.name name)) :
    segment = name ∧ name ≠ [] ∧ name ≠ ['.'] ∧ name ≠ ['.', '.'] := by
  unfold partOf? at part
  split at part
  · cases part
  next visible =>
    split at part
    · cases part
    next different =>
      cases part
      exact ⟨rfl, fun empty => visible (Or.inl empty), fun dot => visible (Or.inr dot), different⟩

theorem plainName_of_mem {path name : List Char} (member : Part.name name ∈ namesOf path) :
    PlainName name := by
  obtain ⟨segment, inside, part⟩ := List.mem_filterMap.mp member
  obtain ⟨rfl, some, here, up⟩ := partOf?_eq_name part
  exact ⟨some, here, up, slash_notMem_segment inside⟩

theorem exists_names {path : List Char} (names : (namesOf path).all isName = true) :
    ∃ found : List (List Char), namesOf path = found.map Part.name ∧
      ∀ name ∈ found, PlainName name := by
  have plain : ∀ name, Part.name name ∈ namesOf path → PlainName name :=
    fun _ member => plainName_of_mem member
  generalize namesOf path = list at names plain
  induction list with
  | nil => exact ⟨[], rfl, by simp⟩
  | cons part rest ih =>
      rw [List.all_cons, Bool.and_eq_true] at names
      obtain ⟨found, same, each⟩ := ih names.2 fun name member =>
        plain name (List.mem_cons_of_mem _ member)
      cases part with
      | name text =>
          refine ⟨text :: found, by rw [same, List.map_cons], ?_⟩
          exact List.forall_mem_cons.mpr ⟨plain text List.mem_cons_self, each⟩
      | root | here | up => cases names.1

theorem below_of_located {root path file : List Char} (found : locate? root path = some file) :
    Below root file := by
  obtain ⟨names, _⟩ := locate?_eq_some found
  have plain := (parts_of_names names).2
  rw [plain] at names
  obtain ⟨below, same, each⟩ := exists_names names
  exact ⟨below, by rw [parts_located found, plain, same], each⟩

theorem relative_head (path : List Char) : (relative path).head? ≠ some '/' := by
  intro slash
  have first := List.head?_dropWhile_not isAnchor path
  have here : (path.dropWhile isAnchor).head? = some '/' := slash
  rw [here] at first
  cases first

theorem namesOf_all_isName {path : List Char} :
    (namesOf path).all isName = true ↔ ['.', '.'] ∉ segments path := by
  rw [List.all_eq_true]
  constructor
  · intro names inside
    cases names .up (List.mem_filterMap.mpr ⟨['.', '.'], inside, rfl⟩)
  · intro outside part member
    obtain ⟨segment, inside, same⟩ := List.mem_filterMap.mp member
    unfold partOf? at same
    split at same
    · cases same
    · split at same
      next up => exact absurd (up ▸ inside) outside
      · cases same
        rfl

theorem locate?_eq_none {root path : List Char} : locate? root path = none ↔
    ['.', '.'] ∈ segments (relative path) ∨ (segments (relative path)).head? = some ['.'] := by
  have none_iff : locate? root path = none ↔ ¬(parts (relative path)).all isName = true := by
    unfold locate?
    split <;> simp [*]
  rw [none_iff]
  unfold parts
  rw [if_neg (relative_head path)]
  split
  next dot => simp [dot, isName]
  next plain =>
    have names : (namesOf (relative path)).all isName = true ↔ _ := namesOf_all_isName
    unfold namesOf at names
    rw [names]
    simp [plain]

end File

theorem fileSource_congr {site : Site} {root : String} (fallback : site.fallback = .files root)
    {tree : File.Tree}
    (alike : ∀ file, File.Below root.toList file → tree.read file = site.tree.read file)
    (path : String) : fileSource { site with tree := tree } path = fileSource site path := by
  unfold fileSource
  simp only [fallback]
  cases found : File.locate? root.toList path.toList with
  | none => rfl
  | some file => simp only [alike file (File.below_of_located found)]

/-- Whatever path is asked for: the file that it stands for lies below the root; none is refused but
those that go up or begin with a dot of their own; and files that do not lie below the root make no
difference to what is read. -/
theorem reads_below_root (site : Site) (root : String) (fallback : site.fallback = .files root)
    (path : String) :
    (∀ file, File.locate? root.toList path.toList = some file → File.Below root.toList file) ∧
    (File.locate? root.toList path.toList = none ↔
      ['.', '.'] ∈ File.segments (File.relative path.toList) ∨
        (File.segments (File.relative path.toList)).head? = some ['.']) ∧
    ∀ tree : File.Tree,
      (∀ file, File.Below root.toList file → tree.read file = site.tree.read file) →
        fileSource { site with tree := tree } path = fileSource site path :=
  ⟨fun _ found => File.below_of_located found, File.locate?_eq_none,
    fun _ alike => fileSource_congr fallback alike path⟩

def rootedSite : Site where
  fallback := .files "/v"
  tree := (({} : File.Tree).put [['v'], "a.liquid".toList] (.file "Inside".toUTF8 1)).put
    ["a.liquid".toList] (.file "Outside".toUTF8 1)

theorem reads_below_root_rootedSite : rootedSite.fallback = .files "/v" ∧
    File.Below "/v".toList "/v/b/.//a.liquid".toList ∧
    File.locate? "/v".toList "~/b/../../a.liquid".toList = none := by
  have rooted : rootedSite.fallback = .files "/v" := rfl
  obtain ⟨below, -, -⟩ := reads_below_root rootedSite "/v" rooted "/~b/.//a.liquid"
  obtain ⟨-, refused, -⟩ := reads_below_root rootedSite "/v" rooted "~/b/../../a.liquid"
  exact ⟨rooted, below _ (by decide +kernel), refused.mpr (Or.inl (by decide +kernel))⟩

end LiveViews
