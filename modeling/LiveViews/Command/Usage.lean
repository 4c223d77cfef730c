import LiveViews.Command.Line

/-!
What is said about a command line that is not followed.
-/

namespace LiveViews.Command

def helpText : String :=
  "Usage: tessera [OPTIONS] <COMMAND>\n\n" ++
  "Commands:\n" ++
  "  serve   Serve the views over HTTP\n" ++
  "  render  Render one view\n" ++
  "  check   Check that all pages and widgets compile\n"

def UsageError.message : UsageError → String
  | .helpAsked => helpText
  | .versionAsked => "tessera 0.1.0\n"
  | .nothingAsked => helpText
  | .missingCommand => "error: a subcommand is required\n"
  | .unknownCommand => "error: unrecognized subcommand\n"
  | .unknownArgument => "error: unexpected argument\n"
  | .missingArgument => "error: a required argument was not provided\n"
  | .repeatedArgument => "error: an argument cannot be used multiple times\n"
  | .surplusValue => "error: an argument takes no value\n"
  | .invalidValue => "error: an argument has no valid value\n"
  | .unreadableValue => "error: the value of an argument cannot be read\n"

/-- Whether the message answers a question, so that it is no complaint. -/
def UsageError.isAnswer : UsageError → Bool
  | .helpAsked | .versionAsked => true
  | _ => false

def UsageError.exitCode (error : UsageError) : Nat :=
  if error.isAnswer then 0 else 2

end LiveViews.Command
