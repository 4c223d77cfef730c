import LiveViews.Text.Blank
import LiveViews.Text.LetterTable

/-!
Letters and digits of all scripts.
-/

namespace LiveViews.Text

def isAlphabetic (c : Char) : Bool :=
  if c.toNat < 128 then c.isAlpha else inRanges alphabeticRanges c

def isNumeric (c : Char) : Bool :=
  if c.toNat < 128 then c.isDigit else inRanges numericRanges c

def isAlphanumeric (c : Char) : Bool :=
  isAlphabetic c || isNumeric c

end LiveViews.Text
