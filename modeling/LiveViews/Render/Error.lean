import LiveViews.Render.Diagnostic

/-!
Why a render fails. Two errors are of the task that a render runs in: it breaks down in the engine, or
for templates that nest deeper than it can bear.
-/

namespace LiveViews

open LiveViews.Liquid

inductive RenderError where
  | parse (error : ParseError)
  | notFound (path : String)
  | missingContext (need : String)
  | missingEntity (kind name : String)
  | recursionLimit (widget : String) (limit : Nat)
  | invalidUtf8 (path : String)
  | io (file : String)
  | liquid (error : EngineError)
  | broken
  | task
  | sink
  | endless
  deriving DecidableEq

def RenderError.message : RenderError → String
  | .parse error => error.display
  | .notFound path => "view `" ++ path ++ "` not found"
  | .missingContext need => "missing context: " ++ need
  | .missingEntity kind name => kind ++ " `" ++ name ++ "` not found"
  | .recursionLimit widget limit =>
    "widget `" ++ widget ++ "` exceeds the nesting limit of " ++ toString limit
  | .invalidUtf8 path => "template `" ++ path ++ "` is not valid UTF-8"
  | .io file => "IO error when reading `" ++ file ++ "`"
  | .liquid error => error.text
  | .broken => "template holds a number out of range"
  | .task | .endless => "render task failed"
  | .sink => "failed to write render output"

def RenderError.isTask : RenderError → Bool
  | .task | .endless => true
  | _ => false

end LiveViews
