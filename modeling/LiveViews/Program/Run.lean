import LiveViews.Command.Reader
import LiveViews.Program.Serve

/-!
Following a command line: it is refused, it comes to an end, or there is a site to be served.
-/

namespace LiveViews.Program

open LiveViews.Command LiveViews.Config

inductive Result where
  | refused (error : UsageError)
  | ended (outcome : Outcome)
  | ready (config : Config) (site : Site)

def serve (isFree : Web.Address → Nat → Bool) (config : Config) (site : Site) :
    Except Outcome Server :=
  match bind isFree config.serve with
  | .error failure => .error { ending := .failed failure, log := site.log }
  | .ok (address, offset, port) => .ok (startServer config address offset port site)

/-- Follows a command line up to serving; templates may nest at most `fuel` deep. -/
def run (fuel : Nat) (around : Surroundings) (now : Int) (arguments : List String) : Result :=
  match Line.read arguments with
  | .error error => .refused error
  | .ok line =>
    match startSite around now line with
    | .error outcome => .ended outcome
    | .ok (config, site) =>
      match line.request with
      | .check => .ended (runCheck site)
      | .render view controller area model =>
        .ended (runRender fuel view controller area model site)
      | .serve _ _ _ => .ready config site

end LiveViews.Program
