import LiveViews.Calendar.Moment
import LiveViews.Text.Case

/-!
Writing a moment by a format: a percent sign, flags, a width and a letter stand for a field. The
flags choose the padding (`-` none, `_` spaces, `0` zeros) and the case (`^` upper, `#` the other
one); a colon or two before the letter of an offset part its digits. What names no field stays as it
is written, but a format must not end inside of one.
-/

namespace LiveViews.Calendar

inductive FormatFault where
  | unfinished
  /-- A width beyond all bounds, or a letter that is not a single byte. -/
  | crashed
  deriving DecidableEq

inductive Padding where
  | usual
  | none
  | spaces
  | zeros
  deriving DecidableEq

structure Style where
  padding : Padding := .usual
  upper : Bool := false
  swapped : Bool := false
  width : Option Nat := Option.none

def Style.withFlag? (style : Style) : Char → Option Style
  | '-' => some { style with padding := .none }
  | '_' => some { style with padding := .spaces }
  | '0' => some { style with padding := .zeros }
  | '^' => some { style with upper := true }
  | '#' => some { style with swapped := true }
  | _ => Option.none

def readFlags (style : Style) : List Char → Style × List Char
  | [] => (style, [])
  | c :: rest =>
    match style.withFlag? c with
    | some style => readFlags style rest
    | Option.none => (style, c :: rest)

def skipModifier : List Char → List Char
  | 'E' :: rest => rest
  | 'O' :: rest => rest
  | text => text

def readStyle (text : List Char) : Style × List Char :=
  let (flagged, rest) := readFlags {} text
  let digits := rest.takeWhile Text.isDigit
  let style := if digits.isEmpty then flagged
    else { flagged with width := some (Text.digitsValue digits) }
  (style, skipModifier (rest.drop digits.length))

def readLetter : List Char → Option (Nat × Char × List Char)
  | ':' :: 'z' :: rest => some (1, 'z', rest)
  | ':' :: ':' :: 'z' :: rest => some (2, 'z', rest)
  | letter :: rest => some (0, letter, rest)
  | [] => Option.none

def widestField : Nat := 65535

def padded (width : Nat) (fill : Char) (text : List Char) : List Char :=
  List.replicate (width - text.length) fill ++ text

def inWidth (width : Nat) (text : List Char) : Except FormatFault (List Char) :=
  if width > widestField then .error .crashed else .ok text

def zeroPadded (width : Nat) (value : Int) : List Char :=
  let digits := Nat.toDigits 10 value.natAbs
  if value < 0 then '-' :: padded (width - 1) '0' digits else padded width '0' digits

def Style.number (style : Style) (width : Nat) (customary : Padding) (value : Int) :
    Except FormatFault (List Char) :=
  let width := style.width.getD width
  match if style.padding = .usual then customary else style.padding with
  | .spaces => inWidth width (padded width ' ' (toString value).toList)
  | .zeros => inWidth width (zeroPadded width value)
  | _ => .ok (toString value).toList

def Style.word (style : Style) (swappedToLower : Bool) (text : String) :
    Except FormatFault (List Char) :=
  let cased :=
    if style.swapped && swappedToLower then Text.lowercase text.toList
    else if style.upper || style.swapped then Text.uppercase text.toList
    else text.toList
  let width := style.width.getD 0
  inWidth width (padded width (if style.padding = .zeros then '0' else ' ') cased)

def offsetRest (colons size : Nat) : List Char :=
  let minutes := padded 2 '0' (Nat.toDigits 10 (size % 60))
  match colons with
  | 0 => minutes
  | 1 => ':' :: minutes
  | _ => ':' :: minutes ++ [':', '0', '0']

def Style.offset (style : Style) (colons : Nat) (offset : Int) : Except FormatFault (List Char) :=
  let rest := offsetRest colons (offset.natAbs)
  let sign := if offset < 0 then '-' else '+'
  let hours := Nat.toDigits 10 (offset.natAbs / 60)
  let width := max 2 (style.width.getD 0 - rest.length - 1)
  match style.padding with
  | .none => .ok (sign :: hours ++ rest)
  | .spaces => inWidth width (padded width ' ' (sign :: hours) ++ rest)
  | _ => inWidth width (sign :: padded width '0' hours ++ rest)

def Style.fraction (style : Style) (places nanosecond : Nat) : Except FormatFault (List Char) :=
  let width := style.width.getD places
  let digits := Nat.toDigits 10 (nanosecond / Nat.pow 10 (9 - width))
  inWidth width (digits ++ List.replicate (width - digits.length) '0')

def hour12 (moment : Moment) : Nat :=
  if moment.hour % 12 = 0 then 12 else moment.hour % 12

def halfDay (moment : Moment) : String :=
  if moment.hour < 12 then "AM" else "PM"

def nth (names : List String) (index : Nat) : String :=
  (names[index]?).getD ""

def yearWidth (year : Int) : Nat :=
  if year < 0 then 5 else 4

def simpleField? (style : Style) (moment : Moment) (colons : Nat) :
    Char → Option (Except FormatFault (List Char))
  | 'Y' => some (style.number (yearWidth moment.year) .zeros moment.year)
  | 'C' => some (style.number 2 .zeros (moment.year.tdiv 100))
  | 'y' => some (style.number 2 .zeros (moment.year.tmod 100))
  | 'm' => some (style.number 2 .zeros moment.month)
  | 'B' => some (style.word false (nth monthNames (moment.month - 1)))
  | 'b' | 'h' => some (style.word false (shortName (nth monthNames (moment.month - 1))))
  | 'd' => some (style.number 2 .zeros moment.day)
  | 'e' => some (style.number 2 .spaces moment.day)
  | 'j' => some (style.number 3 .zeros moment.dayOfYear)
  | 'H' => some (style.number 2 .zeros moment.hour)
  | 'k' => some (style.number 2 .spaces moment.hour)
  | 'I' => some (style.number 2 .zeros (hour12 moment))
  | 'l' => some (style.number 2 .spaces (hour12 moment))
  | 'P' => some (style.word false (halfDay moment).toLower)
  | 'p' => some (style.word true (halfDay moment))
  | 'M' => some (style.number 2 .zeros moment.minute)
  | 'S' => some (style.number 2 .zeros moment.second)
  | 'L' => some (style.fraction 3 moment.nanosecond)
  | 'N' => some (style.fraction 9 moment.nanosecond)
  | 'z' => some (style.offset colons moment.offset)
  | 'Z' => some do
    let text ← ({} : Style).offset 1 moment.offset
    style.word true (String.ofList text)
  | 'A' => some (style.word false (nth dayNames moment.weekday))
  | 'a' => some (style.word false (shortName (nth dayNames moment.weekday)))
  | 'u' => some (style.number 1 .zeros (if moment.weekday = 0 then 7 else moment.weekday))
  | 'w' => some (style.number 1 .zeros moment.weekday)
  | 'G' => some (style.number (yearWidth moment.isoWeek.1) .zeros moment.isoWeek.1)
  | 'g' => some (style.number 2 .zeros (moment.isoWeek.1.tmod 100))
  | 'V' => some (style.number 2 .zeros moment.isoWeek.2)
  | 'U' => some (style.number 2 .zeros (moment.weekFrom 0))
  | 'W' => some (style.number 2 .zeros (moment.weekFrom 1))
  | 's' => some (style.number 1 .zeros moment.timestamp)
  | 'n' => some (style.word false "\n")
  | 't' => some (style.word false "\t")
  | '%' => some (style.word false "%")
  | _ => Option.none

def abbreviation? : Char → Option String
  | 'c' => some "%a %b %e %H:%M:%S %Y"
  | 'D' | 'x' => some "%m/%d/%y"
  | 'F' => some "%Y-%m-%d"
  | 'v' => some "%e-%^b-%Y"
  | 'X' | 'T' => some "%H:%M:%S"
  | 'r' => some "%I:%M:%S %p"
  | 'R' => some "%H:%M"
  | _ => Option.none

/-- Writes the format; abbreviations are opened at most `depth` times inside one another. -/
def writeFormat (moment : Moment) : Nat → Nat → List Char → Except FormatFault (List Char)
  | _, 0, _ => .ok []
  | _, _ + 1, [] => .ok []
  | depth, fuel + 1, '%' :: format =>
    let (style, rest) := readStyle format
    match readLetter rest with
    | Option.none => .error .unfinished
    | some (colons, letter, after) =>
      match simpleField? style moment colons letter, depth, abbreviation? letter with
      | some field, _, _ => do return (← field) ++ (← writeFormat moment depth fuel after)
      | Option.none, depth + 1, some opened => do
        let text ← writeFormat moment depth fuel opened.toList
        let field ← style.word false (String.ofList text)
        return field ++ (← writeFormat moment (depth + 1) fuel after)
      | _, _, _ =>
        if letter.utf8Size > 1 then .error .crashed
        else do
          let written := format.take (format.length - after.length)
          return '%' :: written ++ (← writeFormat moment depth fuel after)
  | depth, fuel + 1, c :: format => do return c :: (← writeFormat moment depth fuel format)

def Moment.format (moment : Moment) (format : String) : Except FormatFault String :=
  (writeFormat moment 1 (format.length + 40) format.toList).map String.ofList

end LiveViews.Calendar
