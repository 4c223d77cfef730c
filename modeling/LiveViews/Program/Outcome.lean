import LiveViews.Log.Console
import LiveViews.Site.Check
import LiveViews.Site.Render
import LiveViews.Site.Start

/-!
What the program does for a command line, up to serving requests.
-/

namespace LiveViews.Program

open LiveViews.Command LiveViews.Config
open LiveViews.Liquid (Value)

structure Failure where
  complaint : String
  cause : Option String := none

inductive Ending where
  | done
  | failed (failure : Failure)
  | broken

def Ending.exitCode : Ending → Nat
  | .done => 0
  | .failed _ => 1
  | .broken => 101

/-- How deep templates nest before the task of the render breaks down. -/
def nesting : Nat := 1000

structure Outcome where
  ending : Ending
  log : List LogLine := []
  text : String := ""
  diagnostics : List String := []

def Outcome.output (outcome : Outcome) (coloured : Bool) : String :=
  String.join (outcome.log.map (Log.written coloured)) ++ outcome.text

def readModel : Option String → Except String Value
  | none => .ok .nil
  | some text =>
    match Json.ofText? text with
    | none => .error "--model is not valid JSON"
    | some model@(.object _) =>
      match Value.ofJson? model with
      | some value => .ok value
      | none => .error "liquid: Cannot fit number"
    | some _ => .error "--model must be a JSON object"

def renderEnding (view : String) : Except ViewError String → Ending
  | .ok _ => .done
  | .error (.render .broken) => .broken
  | .error error@(.notFound _ _) => .failed ⟨error.message, none⟩
  | .error (.render error) =>
    .failed ⟨"Failed to render `" ++ view ++ "`", some error.message⟩

def runRender (fuel : Nat) (view controller : String) (area model : Option String) (site : Site) :
    Outcome :=
  match readModel model with
  | .error complaint => { ending := .failed ⟨complaint, none⟩, log := site.log }
  | .ok model =>
    let routing : View.Routing := { controller := some controller, area := area }
    let (result, site) := renderView fuel view routing model site
    { ending := renderEnding view result, log := site.log, text := result.toOption.getD "" }

def failureLine (failure : CheckFailure) : LogLine :=
  ⟨"error", failure.subject⟩

def failureDetails (failure : CheckFailure) : List String :=
  failure.diagnostics.map fun diagnostic => "  " ++ diagnostic.display

def runCheck (site : Site) : Outcome :=
  match check? site with
  | none => { ending := .broken, log := site.log }
  | some (count, []) =>
    { ending := .done
      log := site.log ++ [⟨"render", toString count ++ " template(s) parsed"⟩] }
  | some (count, failures) =>
    let complaint := toString failures.length ++ " of " ++ toString count ++
      " template(s) failed to parse"
    { ending := .failed ⟨complaint, none⟩
      log := site.log ++ failures.map failureLine
      diagnostics := failures.flatMap failureDetails }

def startSite (around : Surroundings) (now : Int) (line : Line) : Except Outcome (Config × Site) :=
  match load around line with
  | .error error => .error { ending := .failed ⟨error.message, none⟩ }
  | .ok config =>
    let (result, site) := startInMemory config (siteOf config around.tree now {})
    match result with
    | .ok () => .ok (config, site)
    | .error error => .error { ending := .failed ⟨error.message, none⟩, log := site.log }

end LiveViews.Program
