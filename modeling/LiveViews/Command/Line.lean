/-!
What a command line asks for.
-/

namespace LiveViews.Command

inductive Request where
  | serve (interface : Option String) (port : Option Nat) (watch : Option Bool)
  | render (view controller : String) (area model : Option String)
  | check
  deriving DecidableEq

def usualConfig : String := "tessera.toml"

structure Line where
  root : Option String := none
  config : String := usualConfig
  views : Option String := none
  request : Request
  deriving DecidableEq

inductive UsageError where
  | helpAsked
  | versionAsked
  | nothingAsked
  | missingCommand
  | unknownCommand
  | unknownArgument
  | missingArgument
  | repeatedArgument
  | surplusValue
  /-- A value is missing, or is not among those that can be given. -/
  | invalidValue
  | unreadableValue
  deriving DecidableEq

end LiveViews.Command
