import LiveViews.Text.Blank
import LiveViews.Text.Case

/-!
View paths. A view has many spellings: with or without the extension, a tilde, a leading slash, in
any case and with either separator. Its normal path is the one that stands for all of them.
-/

namespace LiveViews.View

open LiveViews.Text

def sameLetters (left right : List Char) : Bool :=
  left.map Char.toLower = right.map Char.toLower

/-- Whether the path ends in the extension, in any case; nothing ends in an empty one. -/
def hasExtension (extension path : List Char) : Bool :=
  !extension.isEmpty && extension.length ≤ path.length &&
    sameLetters (path.drop (path.length - extension.length)) extension

def stripExtension (extension path : List Char) : List Char :=
  if hasExtension extension path then
    stripExtension extension (path.take (path.length - extension.length))
  else path
  termination_by path.length
  decreasing_by
    rename_i found
    simp only [hasExtension, Bool.and_eq_true, Bool.not_eq_true', List.isEmpty_eq_false_iff,
      decide_eq_true_eq, ne_eq] at found
    have := List.length_pos_iff.mpr found.1.1
    rw [List.length_take]
    omega

def dropTilde : List Char → List Char
  | '~' :: rest => rest
  | path => path

def withSlash : List Char → List Char
  | '/' :: rest => '/' :: rest
  | path => '/' :: path

def slashed (c : Char) : Char :=
  if c = '\\' then '/' else c

def normalize (extension path : List Char) : List Char :=
  let bare := stripExtension extension (dropTilde (trim path))
  lowercase ((withSlash bare).map slashed)

def normalPath (extension path : String) : String :=
  String.ofList (normalize extension.toList path.toList)

end LiveViews.View
