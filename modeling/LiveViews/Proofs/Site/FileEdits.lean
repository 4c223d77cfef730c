import LiveViews.Proofs.Site.Coherence
import LiveViews.Proofs.View.Spelling
import LiveViews.Site.Change

/-!
Edits of view files. When the watcher is told of a changed file, it signals the normal path of the
view that the file is called after. That drops what is kept of the file under every spelling with
this normal path, and leaves what is kept under any other one (`edit_reaches_spellings`).
-/

namespace LiveViews

open LiveViews.Store LiveViews.Signal LiveViews.File LiveViews.Text
open LiveViews.Liquid (Value Members)

inductive WatchedOperation where
  | use (operation : SiteOperation)
  | notice (files : List (List Char))

def plainView (key : String) : String :=
  String.ofList (plainPath key.toList)

namespace Site

variable {site : Site}

def observe (root : String) (site : Site) : WatchedOperation → Site
  | .use operation => site.operate operation
  | .notice files => (handleChanges root files site).2

def observeAll (root : String) (site : Site) (operations : List WatchedOperation) : Site :=
  operations.foldl (observe root) site

theorem signalChange_echoes (site : Site) (path : String) :
    (LiveViews.signal path site).2.Echoes (signalChange path site).2 := by
  unfold signalChange
  rw [SiteM.bind_apply]
  split
  · exact (Echoes.refl _).report _
  · exact Echoes.refl _

theorem compiled?_echo {base : Site} (echoes : base.Echoes site) (key : String) :
    site.compiled? key = base.compiled? key := by
  rw [echoes]
  rfl

theorem notified_signalChange (site : Site) (path : String) :
    site.Notified (signalChange path site).2 :=
  (site.notified_signal path).trans (site.signalChange_echoes path).notified

theorem notified_handleChanges (site : Site) (root : String) (files : List (List Char)) :
    site.Notified (handleChanges root files site).2 := by
  have signalled : ∀ (paths : List String) (other : Site),
      other.Notified (paths.forM signalChange other).2 := by
    intro paths
    induction paths with
    | nil => exact Notified.refl
    | cons path rest ih => exact fun other => (other.notified_signalChange path).trans (ih _)
  exact signalled (changedViews root site.settings.extension files) site

theorem Steady.signalChange (steady : site.Steady) (path : String) :
    (signalChange path site).2.Steady ∧ (signalChange path site).2.fresh = site.fresh ∧
    ∀ key, (LiveViews.signalChange path site).2.compiled? key =
      if site.normal key = path then none else site.compiled? key := by
  have echoes := site.signalChange_echoes path
  refine ⟨(steady.signal path).echo echoes, ?_, ?_⟩
  · exact echoes.fresh.trans (site.notified_signal path).fresh
  · intro key
    rw [compiled?_echo echoes]
    exact steady.indexed.evictsExactly.dropped path key

theorem Steady.signalChanges (steady : site.Steady) (paths : List String) :
    (paths.forM LiveViews.signalChange site).2.Steady ∧
    (paths.forM LiveViews.signalChange site).2.fresh = site.fresh ∧
    ∀ key, (paths.forM LiveViews.signalChange site).2.compiled? key =
      if site.normal key ∈ paths then none else site.compiled? key := by
  induction paths generalizing site with
  | nil => exact ⟨steady, rfl, fun key => by simp⟩
  | cons path rest ih =>
      obtain ⟨signalled, same, dropped⟩ := steady.signalChange path
      obtain ⟨steadyAfter, sameAfter, droppedAfter⟩ := ih signalled
      refine ⟨steadyAfter, sameAfter.trans same, ?_⟩
      intro key
      have answer := droppedAfter key
      rw [normal_of_fresh same, dropped key] at answer
      show (rest.forM LiveViews.signalChange (LiveViews.signalChange path site).2).2.compiled? key = _
      rw [answer]
      by_cases here : site.normal key = path
      · simp [here]
      · simp [here]

theorem Steady.handleChanges (steady : site.Steady) (root : String) (files : List (List Char)) :
    (handleChanges root files site).2.Steady ∧
    (handleChanges root files site).2.fresh = site.fresh ∧
    ∀ key, (LiveViews.handleChanges root files site).2.compiled? key =
      if site.normal key ∈ changedViews root site.settings.extension files then none
      else site.compiled? key :=
  steady.signalChanges (changedViews root site.settings.extension files)

theorem Steady.observeAll (steady : site.Steady) (root : String)
    (operations : List WatchedOperation) :
    (site.observeAll root operations).Steady ∧
      (site.observeAll root operations).setup = site.setup := by
  induction operations generalizing site with
  | nil => exact ⟨steady, rfl⟩
  | cons operation rest ih =>
      have step : (site.observe root operation).Steady ∧
          (site.observe root operation).setup = site.setup := by
        cases operation with
        | use operation => exact ⟨steady.operate operation, steady.quiet.operate_setup operation⟩
        | notice files =>
            obtain ⟨steadyAfter, same, _⟩ := steady.handleChanges root files
            exact ⟨steadyAfter, setup_of_fresh same⟩
      obtain ⟨steadyAfter, same⟩ := ih step.1
      exact ⟨steadyAfter, same.trans step.2⟩

end Site

section Files

variable {root extension key : String} {file name : List Char}

theorem plainPath_ends (last : (parts (relative key.toList)).getLast? = some (.name name)) :
    ∃ front, plainPath key.toList = front ++ name := by
  have ends : ((parts (relative key.toList)).map Part.text).getLast? = some name := by
    rw [List.getLast?_map, last]
    rfl
  obtain ⟨front, same⟩ : ∃ front,
      joinWith ['/'] ((parts (relative key.toList)).map Part.text) = front ++ name :=
    joinWith_getLast? ends
  exact ⟨'/' :: front, by rw [plainPath, same, List.cons_append]⟩

theorem slash_notMem_name (last : (parts (relative key.toList)).getLast? = some (.name name))
    (names : (parts (relative key.toList)).all isName = true) : '/' ∉ name := by
  have member := List.mem_of_getLast? last
  rw [(parts_of_names names).2] at member
  obtain ⟨segment, inside, part⟩ := List.mem_filterMap.mp member
  have same : segment = name := by
    unfold partOf? at part
    split at part
    · cases part
    · split at part
      · cases part
      · exact Part.name.inj (Option.some.inj part)
  exact same ▸ slash_notMem_segment inside

theorem normalPath_plainView (extension key : String) :
    View.normalPath extension (plainView key) =
      String.ofList (View.normalize extension.toList (plainPath key.toList)) := by
  rw [View.normalPath, plainView, String.toList_ofList]

theorem mem_changedViews (view : List Char) {files : List (List Char)} (member : file ∈ files)
    (changed : changedView? root.toList extension.toList file = some view) :
    String.ofList view ∈ changedViews root extension files := by
  unfold changedViews
  rw [List.mem_mergeSort, List.mem_eraseDups]
  exact List.mem_map_of_mem (List.mem_filterMap.mpr ⟨file, member, changed⟩)

theorem changedViews_singleton (view : List Char)
    (changed : changedView? root.toList extension.toList file = some view) :
    changedViews root extension [file] = [String.ofList view] := by
  simp [changedViews, changed, List.eraseDups_cons]

end Files

/-- The file that a key leads to, a path that it is known by, and what is read there. -/
structure EditedFile (root extension key : String) (tree : Tree) where
  located : List Char
  file : List Char
  name : List Char
  bytes : ByteArray
  modified : Int
  found : locate? root.toList key.toList = some located
  same : parts file = parts located
  named : fileName? file = some name
  carries : View.hasExtension extension.toList name = true
  read : tree.read located = .ok (bytes, modified)

namespace EditedFile

variable {root extension key : String} {tree : Tree}

theorem last (edited : EditedFile root extension key tree) :
    (parts (relative key.toList)).getLast? = some (.name edited.name) := by
  have named := edited.named
  have nonempty := parts_ne_nil_of_read edited.found edited.read
  unfold fileName? at named
  rw [edited.same, parts_located edited.found, List.getLast?_append_of_ne_nil _ nonempty] at named
  split at named
  next text last => rw [last, Option.some.inj named]
  next => cases named

theorem extension_relative (edited : EditedFile root extension key tree) :
    extension.toList.head? ≠ some '/' :=
  View.relative_of_carries edited.carries
    (slash_notMem_name edited.last (locate?_eq_some edited.found).1)

theorem changed (edited : EditedFile root extension key tree) :
    changedView? root.toList extension.toList edited.file =
      some (View.normalize extension.toList (plainPath key.toList)) := by
  obtain ⟨front, ends⟩ := plainPath_ends edited.last
  have viewed : View.hasExtension extension.toList (plainPath key.toList) = true := by
    rw [ends]
    exact View.hasExtension_append front edited.carries
  unfold changedView?
  rw [virtualPath?_located edited.found edited.same, Option.filter_some, if_pos viewed]
  rfl

end EditedFile

/-- After a file is changed and the watcher is told of it, a view that is found there has no entry
left, and shows the new content, if it was asked for under a spelling that has the normal path of the
file; under any other spelling its entry stays. -/
theorem edit_reaches_spellings (start : Site) (opened : start.Opened) (root key : String)
    (fallback : start.fallback = .files root) (operations : List WatchedOperation)
    (tree : Tree) (edited : EditedFile root start.settings.extension key tree)
    (files : List (List Char)) (told : edited.file ∈ files)
    (unpaged : (start.observeAll root operations).page? (start.normal key) = none) :
    let site : Site := { start.observeAll root operations with tree := tree }
    let after := (handleChanges root files site).2
    after.source key = .ok (some ⟨edited.bytes, some edited.modified⟩) ∧
    (View.PlainlySpelled key.toList → start.normal key = start.normal (plainView key)) ∧
    (start.normal key = start.normal (plainView key) → after.compiled? key = none ∧
      ∀ fuel model ambient services,
        (renderPath fuel key model ambient (Services.source services) after).1 =
          (renderPath fuel key model ambient (Services.source services) after.fresh).1) ∧
    (files = [edited.file] → start.normal key ≠ start.normal (plainView key) →
      after.compiled? key = site.compiled? key) := by
  obtain ⟨reached, setup⟩ := opened.steady.observeAll root operations
  generalize start.observeAll root operations = before at reached setup unpaged
  intro site after
  have steady : site.Steady := reached.operate (.replaceFiles tree)
  obtain ⟨steadyAfter, fresh, dropped⟩ := steady.handleChanges root files
  obtain ⟨settings, sameFallback⟩ := Prod.mk.inj setup
  have normal : site.normal = start.normal :=
    Site.normal_of_same (congrArg View.Settings.extension settings)
  have plain : start.normal (plainView key) = String.ofList
      (View.normalize start.settings.extension.toList (plainPath key.toList)) :=
    normalPath_plainView _ key
  have kept : ∀ spelling, after.compiled? spelling =
      if start.normal spelling ∈ changedViews root start.settings.extension files then none
      else site.compiled? spelling := by
    intro spelling
    rw [← normal, ← congrArg View.Settings.extension settings]
    exact dropped spelling
  refine ⟨?_, ?_, ?_, ?_⟩
  · have absent : site.page? (site.normal key) = none := by
      rw [normal]
      exact unpaged
    have files : site.fallback = .files root := sameFallback.trans fallback
    have contents : site.tree.read edited.located = .ok (edited.bytes, edited.modified) := edited.read
    rw [Site.source_fresh, fresh, ← Site.source_fresh]
    simp only [Site.source, absent, fileSource, files, edited.found, contents]
  · intro spelled
    rw [plain, ← View.normalize_plainPath edited.extension_relative spelled]
    rfl
  · intro alike
    have gone : after.compiled? key = none := by
      rw [kept key, if_pos]
      rw [alike, plain]
      exact mem_changedViews _ told edited.changed
    refine ⟨gone, fun fuel model ambient services => ?_⟩
    refine steadyAfter.renderPath_fresh (fun compiled held => ?_) fuel model ambient services
    rw [gone] at held
    cases held
  · rintro rfl apart
    rw [kept key, if_neg]
    rw [changedViews_singleton _ edited.changed, List.mem_singleton, ← plain]
    exact apart

def watchedSite : Site where
  fallback := .files "/v"
  tree := ({} : Tree).put [['v'], "a.liquid".toList] (.file "Old".toUTF8 1)

def watchedFile : List Char :=
  "/v/a.liquid".toList

def editedTree : Tree :=
  ({} : Tree).put [['v'], "a.liquid".toList] (.file "New".toUTF8 2)

def watchedEdit : EditedFile "/v" ".liquid" "~/a.liquid" editedTree where
  located := watchedFile
  file := watchedFile
  name := "a.liquid".toList
  bytes := "New".toUTF8
  modified := 2
  found := by decide +kernel
  same := rfl
  named := by decide +kernel
  carries := by decide +kernel
  read := by decide +kernel

theorem edit_reaches_spellings_watchedSite : Site.Opened watchedSite ∧
    (handleChanges "/v" [watchedFile]
      { watchedSite.observeAll "/v" [.use (.compile "~/a.liquid")] with
        tree := editedTree }).2.compiled? "~/a.liquid" = none := by
  have opened : Site.Opened watchedSite := ⟨rfl, rfl, rfl, rfl⟩
  have reached := edit_reaches_spellings watchedSite opened "/v" "~/a.liquid" rfl
    [.use (.compile "~/a.liquid")] editedTree watchedEdit [watchedFile] (by decide) (by decide +kernel)
  have spelled : View.PlainlySpelled "~/a.liquid".toList := ⟨by decide +kernel, by decide +kernel⟩
  exact ⟨opened, (reached.2.2.1 (reached.2.1 spelled)).1⟩

/-- The view that was asked for with two slashes keeps its entry, and its old text. -/
theorem stale_under_two_slashes :
    let site := watchedSite.observeAll "/v" [.use (.compile "//a.liquid")]
    let after := (handleChanges "/v" [watchedFile] { site with tree := editedTree }).2
    locate? "/v".toList "//a.liquid".toList = some watchedFile ∧ site.holds "//a.liquid" = true ∧
      after.holds "//a.liquid" = true ∧
      (renderPath 8 "//a.liquid" .nil [] .noLocator after).1.toOption = some "Old" ∧
      (renderPath 8 "//a.liquid" .nil [] .noLocator after.fresh).1.toOption = some "New" := by
  decide +kernel

end LiveViews
