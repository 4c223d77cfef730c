import LiveViews.Proofs.Site.Checking
import LiveViews.Proofs.View.Normal

/-!
Finding a page again by the path it is stored at. That path is a normal one, and it is its own normal
path unless white space is left at its end: a page whose path ends so is found under the spellings it
was stored by, but not under its path (`found_at_own_path_iff`).
-/

namespace LiveViews

open LiveViews.Store LiveViews.View LiveViews.Text

namespace Site

variable {site : Site}

theorem Orderly.settings_serveAll (orderly : site.Orderly) (root : String) {steps : List ServedStep}
    (written : ∀ step ∈ steps, step.editsPages = false) :
    (site.serveAll root steps).settings = site.settings := by
  induction steps generalizing site with
  | nil => rfl
  | cons step rest ih =>
      have fed := orderly.fed_serve root (written step List.mem_cons_self)
      have later := ih (orderly.serve root step) fun other member =>
        written other (List.mem_cons_of_mem _ member)
      exact later.trans fed.settings

theorem Stocked.page?_own_path (stocked : site.Stocked)
    (plain : PlainExtension site.settings.extension.toList) {page : Page}
    (stored : page ∈ site.stores.pages.table.rows) :
    site.page? (site.normal page.path) = some page ↔
      page.status = .active ∧ endsVisibly page.path.toList = true := by
  obtain ⟨key, spelled⟩ := stocked.pages.fits page stored
  have again : site.normal page.path = page.path ↔ endsVisibly page.path.toList = true := by
    rw [← spelled]
    exact normalPath_again_iff plain key
  rw [← again]
  constructor
  · intro found
    have wanted := List.find?_some found
    rw [Bool.and_eq_true, decide_eq_true_eq, decide_eq_true_eq] at wanted
    exact ⟨wanted.2, wanted.1.symm⟩
  · rintro ⟨active, same⟩
    rw [same]
    exact stocked.page? (mem_activePages.mpr ⟨stored, active⟩)

end Site

/-- A normal path is its own normal path exactly if no white space is left at its end, where it stood
before the extension; and of the pages that writing and seeding have stored, those that are active and
whose path ends visibly are found at their own path, and no others. -/
theorem found_at_own_path_iff (path : String) :
    (normalPath ".liquid" (normalPath ".liquid" path) = normalPath ".liquid" path ↔
      endsVisibly (normalPath ".liquid" path).toList = true) ∧
    endsVisibly (normalPath ".liquid" path).toList =
      endsVisibly (stripExtension ".liquid".toList (dropTilde (trim path.toList))) ∧
    ∀ start : Site, start.Opened → start.Stocked → start.settings.extension = ".liquid" →
      ∀ (root : String) (steps : List Site.ServedStep), (∀ step ∈ steps, step.editsPages = false) →
        let site := start.serveAll root steps
        ∀ page ∈ site.stores.pages.table.rows,
          ((pageAt (site.normal page.path) site).1 = some page ↔
            page.status = .active ∧ endsVisibly page.path.toList = true) ∧
          (page.status = .active → endsVisibly page.path.toList = true →
            (resolve page.path site).1.map (Option.map Prod.fst) = .ok (some (pageSource page))) := by
  have plain : PlainExtension ".liquid".toList := by decide
  refine ⟨normalPath_again_iff plain path, ?_, ?_⟩
  · rw [normalPath, String.toList_ofList]
    exact endsVisibly_normalize _ _
  intro start opened stocked liquid root steps written site page stored
  have orderly : start.Orderly := ⟨opened.steady.quiet, stocked.sound⟩
  have calm : site.Calm := (orderly.serveAll root steps).quiet.calm
  have own : PlainExtension site.settings.extension.toList := by
    rw [orderly.settings_serveAll root written, liquid]
    exact plain
  have found := (stocked.serveAll orderly root written).page?_own_path own stored
  have read : (pageAt (site.normal page.path) site).1 = site.page? (site.normal page.path) :=
    congrArg Prod.fst (readPage_calm calm _)
  refine ⟨read ▸ found, fun active visible => ?_⟩
  rw [Site.resolve_calm calm, Site.source, found.mpr ⟨active, visible⟩]
  rfl

def spacedSteps : List Site.ServedStep :=
  [.observe (.use (.writePage ⟨"a", "Hi", "/a .liquid"⟩)),
    .observe (.use (.writePage ⟨"b", "Ho", "~/B.liquid "⟩))]

theorem found_at_own_path_iff_spaced : Site.Opened {} ∧ Site.Stocked {} ∧
    (∀ step ∈ spacedSteps, step.editsPages = false) ∧
    let site := ({} : Site).serveAll "" spacedSteps
    site.stores.pages.table.rows.map Page.path = ["/a ", "/b"] ∧
    ∀ page ∈ site.stores.pages.table.rows,
      (pageAt (site.normal page.path) site).1 = some page ↔
        page.status = .active ∧ endsVisibly page.path.toList = true := by
  have opened : Site.Opened {} := ⟨rfl, rfl, rfl, rfl⟩
  have stocked : Site.Stocked {} := Site.stocked_of_empty rfl
  have written : ∀ step ∈ spacedSteps, step.editsPages = false := by
    simp [spacedSteps, Site.ServedStep.editsPages]
  have found := (found_at_own_path_iff "/a .liquid").2.2 {} opened stocked rfl "" spacedSteps written
  exact ⟨opened, stocked, written, by decide +kernel, fun page stored => (found page stored).1⟩

theorem lost_at_own_path :
    normalPath ".liquid" "/a .liquid" = "/a " ∧ normalPath ".liquid" "/a " = "/a" ∧
    let site := ({} : Site).serveAll "" spacedSteps
    site.stores.pages.table.rows.map Page.path = ["/a ", "/b"] ∧
    (resolve "/a " site).1.map Option.isSome = .ok false ∧
    (resolve "/a .liquid" site).1.map Option.isSome = .ok true := by
  decide +kernel

end LiveViews
