import LiveViews.Liquid.Filter.Basic
import LiveViews.Text.Case
import LiveViews.Text.Cluster
import LiveViews.Text.Percent
import LiveViews.Text.Search

/-!
Filters on text.
-/

namespace LiveViews.Liquid.TextFilter

open LiveViews.Text

def markup? : Char → Option String
  | '<' => some "&lt;"
  | '>' => some "&gt;"
  | '\'' => some "&#39;"
  | '"' => some "&quot;"
  | '&' => some "&amp;"
  | _ => none

def escape (text : List Char) : List Char :=
  text.flatMap fun c => ((markup? c).map String.toList).getD [c]

/-- What may follow an ampersand that is escaped already. -/
def escapedForms : List String := ["lt;", "gt;", "#39;", "quot;", "amp;"]

def escapeOnce : List Char → List Char
  | [] => []
  | c :: rest =>
    let kept := c = '&' && escapedForms.any fun form => form.toList.isPrefixOf rest
    (if kept then [c] else ((markup? c).map String.toList).getD [c]) ++ escapeOnce rest

/-- Letters that count as one in tags: the case is ignored, and so is the form of a long s. -/
def sameLetter (letter c : Char) : Bool :=
  c.toLower = letter || (letter = 's' && c = 'ſ')

def afterLetters? : List Char → List Char → Option (List Char)
  | [], text => some text
  | _ :: _, [] => none
  | letter :: letters, c :: text => if sameLetter letter c then afterLetters? letters text else none

def afterNext? (letters : List Char) : List Char → Option (List Char)
  | [] => if letters.isEmpty then some [] else none
  | c :: rest =>
    match afterLetters? letters (c :: rest) with
    | some after => some after
    | none => afterNext? letters rest

def removeStretches (first last : List Char) : Nat → List Char → List Char
  | 0, text => text
  | _ + 1, [] => []
  | fuel + 1, c :: rest =>
    match (afterLetters? first (c :: rest)).bind (afterNext? last) with
    | some after => removeStretches first last fuel after
    | none => c :: removeStretches first last fuel rest

def stretches : List (String × String) :=
  [("<script", "</script>"), ("<style", "</style>"), ("<!--", "-->"), ("<", ">")]

def stripHtml (text : List Char) : List Char :=
  stretches.foldl (fun text ends =>
    removeStretches ends.1.toList ends.2.toList (text.length + 1) text) text

def newlineToBr (text : List Char) : List Char :=
  text.flatMap fun c => if c = '\n' then "<br />\n".toList else [c]

def stripNewlines (text : List Char) : List Char :=
  text.filter fun c => c ≠ '\n' && c ≠ '\r'

/-- The text cut to `length` clusters with the ellipsis; the test is made on bytes. -/
def truncate (length : Nat) (ellipsis text : String) : Option String :=
  if length < text.utf8ByteSize then
    let kept := (clusters text.toList).take (length - ellipsis.utf8ByteSize)
    some (String.ofList kept.flatten ++ ellipsis)
  else none

/-- The first `count` words with the ellipsis; every single space parts two words. -/
def truncateWords (count : Nat) (ellipsis text : String) : Option String :=
  let words := splitOn [' '] text.toList
  if count < words.length then
    some (String.ofList (joinWith [' '] (words.take count)) ++ ellipsis)
  else none

/-- Where a slice of `size` items starts and how long it is. A negative offset counts from the end;
one before the start leaves nothing. None if the sum of both leaves the range of the words. -/
def sliceBounds? (offset length : Int) (size : Nat) : Option (Option (Nat × Nat)) :=
  let capped := min offset size
  let start := if capped < 0 then capped + size else capped
  if !fitsI64 (start + length) then none
  else if start < 0 then some none
  else
    let length := if start + length > size then size - start else length
    some (some (start.toNat, length.toNat))

end LiveViews.Liquid.TextFilter
