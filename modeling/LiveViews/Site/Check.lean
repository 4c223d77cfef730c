import LiveViews.Site.Basic
import LiveViews.Render.RangeLimit

/-!
Checking that every active page and widget of a site compiles.
-/

namespace LiveViews

open LiveViews.Store

structure Checked where
  subject : String
  text : String

structure CheckFailure where
  subject : String
  diagnostics : List Diagnostic

def checkedTexts (site : Site) : List Checked :=
  let pages := site.stores.pages.table.rows.filter fun page => page.status = .active
  let widgets := site.stores.widgets.table.rows.filter fun widget => widget.status = .active
  pages.map (fun page => ⟨"page " ++ page.path, page.body⟩) ++
    widgets.map fun widget => ⟨"widget " ++ widget.name, widget.content⟩

/-- The failures among the texts; none at all if the compiler breaks down on one of them. -/
def checkFailures? (maxRange : Nat) : List Checked → Option (List CheckFailure)
  | [] => some []
  | checked :: rest =>
    match parseView maxRange checked.text with
    | .ok _ => checkFailures? maxRange rest
    | .error (.refused error) =>
      (checkFailures? maxRange rest).map fun failures =>
        ⟨checked.subject, error.diagnostics⟩ :: failures
    | .error .crashed => none

def check? (site : Site) : Option (Nat × List CheckFailure) :=
  let texts := checkedTexts site
  (checkFailures? site.settings.maxRange texts).map fun failures => (texts.length, failures)

end LiveViews
