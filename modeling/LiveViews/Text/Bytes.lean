/-!
Texts measured in bytes of UTF-8, and cut between characters.
-/

namespace LiveViews.Text

def byteLength (text : List Char) : Nat :=
  (text.map Char.utf8Size).foldr (· + ·) 0

def takeBytes : Nat → List Char → List Char
  | _, [] => []
  | limit, c :: rest =>
    if c.utf8Size ≤ limit then c :: takeBytes (limit - c.utf8Size) rest else []

def lineCount (text : List Char) : Nat :=
  text.count '\n' + 1

end LiveViews.Text
