/-!
Lines of the log: the part of the program that speaks, and what it says.
-/

namespace LiveViews

structure LogLine where
  part : String
  message : String
  deriving DecidableEq

def LogLine.text (line : LogLine) : String :=
  "[" ++ line.part ++ "] " ++ line.message

end LiveViews
