import LiveViews.Calendar.Moment
import LiveViews.Text.Blank
import LiveViews.Text.Case

/-!
Reading a moment from text: a word for the present, one of six layouts with an optional offset, or
seconds since the start of 1970.
-/

namespace LiveViews.Calendar

open LiveViews.Text

inductive Field where
  | year
  | month
  | monthName
  | monthShort
  | day
  | plainDay
  | weekdayShort
  | hour
  | minute
  | second
  | fraction
  | literal (text : String)

def timeFields : List Field :=
  [.hour, .literal ":", .minute, .literal ":", .second]

def layouts : List (List Field) := [
  [.year, .literal "-", .month, .literal "-", .day, .literal " "] ++ timeFields,
  [.year, .literal "-", .month, .literal "-", .day, .literal " "] ++ timeFields
    ++ [.literal ".", .fraction],
  [.day, .literal " ", .monthName, .literal " ", .year, .literal " "] ++ timeFields,
  [.day, .literal " ", .monthShort, .literal " ", .year, .literal " "] ++ timeFields,
  [.month, .literal "/", .day, .literal "/", .year, .literal " "] ++ timeFields,
  [.weekdayShort, .literal " ", .monthShort, .literal " ", .plainDay, .literal " "] ++ timeFields
    ++ [.literal " ", .year]]

def readFixed? (count : Nat) (text : List Char) : Option (Nat × List Char) :=
  let digits := text.take count
  if digits.length = count then (readDigits? digits).map fun value => (value, text.drop count)
  else none

def readNameOf? (names : List String) (text : List Char) : Option (Nat × List Char) :=
  (names.zipIdx 1).findSome? fun entry =>
    if entry.1.toList.isPrefixOf text then some (entry.2, text.drop entry.1.length) else none

def readYear? (text : List Char) : Option (Int × List Char) :=
  match text with
  | '-' :: rest => (readFixed? 4 rest).map fun part => (-(part.1 : Int), part.2)
  | '+' :: rest => (readFixed? 4 rest).map fun part => ((part.1 : Int), part.2)
  | _ => (readFixed? 4 text).map fun part => ((part.1 : Int), part.2)

/-- A fraction of a second; digits behind the ninth do not count. -/
def readNanoseconds? (text : List Char) : Option (Nat × List Char) :=
  let digits := text.takeWhile isDigit
  let counted := digits.take 9
  if digits.isEmpty then none
  else some (digitsValue counted * Nat.pow 10 (9 - counted.length), text.drop digits.length)

def readField? (moment : Moment) (text : List Char) : Field → Option (Moment × List Char)
  | .year => (readYear? text).map fun part => ({ moment with year := part.1 }, part.2)
  | .month => (readFixed? 2 text).map fun part => ({ moment with month := part.1 }, part.2)
  | .monthName => (readNameOf? monthNames text).map fun part =>
      ({ moment with month := part.1 }, part.2)
  | .monthShort => (readNameOf? (monthNames.map shortName) text).map fun part =>
      ({ moment with month := part.1 }, part.2)
  | .day => (readFixed? 2 text).map fun part => ({ moment with day := part.1 }, part.2)
  | .plainDay => (readFixed? 2 text <|> readFixed? 1 text).map fun part =>
      ({ moment with day := part.1 }, part.2)
  | .weekdayShort => (readNameOf? (dayNames.map shortName) text).map fun part => (moment, part.2)
  | .hour => (readFixed? 2 text).map fun part => ({ moment with hour := part.1 }, part.2)
  | .minute => (readFixed? 2 text).map fun part => ({ moment with minute := part.1 }, part.2)
  | .second => (readFixed? 2 text).map fun part => ({ moment with second := part.1 }, part.2)
  | .fraction => (readNanoseconds? text).map fun part =>
      ({ moment with nanosecond := part.1 }, part.2)
  | .literal word =>
    if word.toList.isPrefixOf text then some (moment, text.drop word.length) else none

def Moment.isValid (moment : Moment) : Bool :=
  1 ≤ moment.month && moment.month ≤ 12 && 1 ≤ moment.day
    && moment.day ≤ monthLength moment.year moment.month
    && moment.hour < 24 && moment.minute < 60 && moment.second < 60

def readLayout? (offset : Int) (text : List Char) (layout : List Field) : Option Moment := do
  let start : Moment := ⟨0, 1, 1, 0, 0, 0, 0, offset⟩
  let (moment, rest) ← layout.foldlM (fun state field => readField? state.1 state.2 field)
    (start, text)
  if rest.isEmpty && moment.isValid then some moment else none

def endsInOffset (text : List Char) : Bool :=
  match text.reverse with
  | d :: c :: b :: a :: sign :: _ =>
    (sign = '+' || sign = '-') && (a = '0' || a = '1') && [b, c, d].all isDigit
  | _ => false

/-- The text without the offset at its end, and the offset in minutes. What ends like an offset has to
be one. -/
def splitOffset? (text : List Char) : Option (List Char × Int) :=
  if !endsInOffset text then some (text, 0)
  else
    let word := text.drop (text.length - 5)
    let hours := digitsValue ((word.drop 1).take 2)
    let minutes := digitsValue (word.drop 3)
    let size : Int := hours * 60 + minutes
    let before := text.take (text.length - 5)
    if before.getLast? ≠ some ' ' || minutes ≥ 60 then none
    else some (before.dropLast, if word.head? = some '-' then -size else size)

def civilFrom : Nat → Int → Nat → Int × Nat × Nat
  | 0, year, _ => (year, 1, 1)
  | fuel + 1, year, days =>
    if days ≥ yearLength year then civilFrom fuel (year + 1) (days - yearLength year)
    else
      let month := ((List.range 12).filter fun earlier => daysBeforeMonth year (earlier + 1) ≤ days)
        |>.length
      (year, month, days - daysBeforeMonth year month + 1)

def firstYear : Int := -9999

def lastYear : Int := 9999

def ofTimestamp? (seconds : Int) : Option Moment :=
  let days := seconds / 86400 + daysBeforeYear 1970
  let clock := (seconds % 86400).toNat
  if days < daysBeforeYear firstYear ∨ days ≥ daysBeforeYear (lastYear + 1) then none
  else
    let start := days / 146097 * 400
    let (year, month, day) := civilFrom 401 start (days % 146097).toNat
    some ⟨year, month, day, clock / 3600, clock / 60 % 60, clock % 60, 0, 0⟩

def isPresent (text : List Char) : Bool :=
  let word := Text.trim (Text.lowercase text)
  word = "now".toList || word = "today".toList

def ofText? (now : Int) (text : String) : Option Moment :=
  if isPresent text.toList then ofTimestamp? now
  else
    let inLayout := (splitOffset? text.toList).bind fun (plain, offset) =>
      layouts.findSome? (readLayout? offset plain)
    inLayout <|> (readI64? text.toList).bind ofTimestamp?

end LiveViews.Calendar
