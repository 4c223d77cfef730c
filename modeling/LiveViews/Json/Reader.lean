import LiveViews.Json.Basic
import LiveViews.Text.Hex
import LiveViews.Text.Numeral

/-!
Reading JSON text. A text is refused as a whole: for a control character or a lone surrogate in a
string, for a number out of range, for nesting of 128 levels and for anything after the value.
-/

namespace LiveViews.Json

open LiveViews.Text

def skipBlanks (text : List Char) : List Char :=
  text.dropWhile fun c => c = ' ' || c = '\n' || c = '\t' || c = '\r'

def readUnit? : List Char → Option (Nat × List Char)
  | a :: b :: c :: d :: rest => do
    let a ← hexValue? a
    let b ← hexValue? b
    let c ← hexValue? c
    let d ← hexValue? d
    return (((a * 16 + b) * 16 + c) * 16 + d, rest)
  | _ => none

def simpleEscape? : Char → Option Char
  | '"' => some '"'
  | '\\' => some '\\'
  | '/' => some '/'
  | 'b' => some '\x08'
  | 'f' => some '\x0c'
  | 'n' => some '\n'
  | 'r' => some '\r'
  | 't' => some '\t'
  | _ => none

/-- The character after a backslash and a `u`; a high surrogate needs its low one. -/
def readEscapedUnit? (text : List Char) : Option (Char × List Char) := do
  let (unit, rest) ← readUnit? text
  if 0xDC00 ≤ unit ∧ unit ≤ 0xDFFF then none
  else if 0xD800 ≤ unit ∧ unit ≤ 0xDBFF then
    match rest with
    | '\\' :: 'u' :: rest => do
      let (low, rest) ← readUnit? rest
      if 0xDC00 ≤ low ∧ low ≤ 0xDFFF then
        some (Char.ofNat ((unit - 0xD800) * 0x400 + (low - 0xDC00) + 0x10000), rest)
      else none
    | _ => none
  else some (Char.ofNat unit, rest)

def readStringAfter : Nat → List Char → List Char → Option (String × List Char)
  | 0, _, _ => none
  | fuel + 1, collected, text =>
    match text with
    | '"' :: rest => some (String.ofList collected.reverse, rest)
    | '\\' :: 'u' :: rest => do
      let (c, rest) ← readEscapedUnit? rest
      readStringAfter fuel (c :: collected) rest
    | '\\' :: c :: rest => do
      let c ← simpleEscape? c
      readStringAfter fuel (c :: collected) rest
    | c :: rest => if c.toNat < 0x20 then none else readStringAfter fuel (c :: collected) rest
    | [] => none

def readString? : List Char → Option (String × List Char)
  | '"' :: rest => readStringAfter (rest.length + 1) [] rest
  | _ => none

structure Significand where
  digits : Nat
  /-- How far the point is from the end of the digits; whole digits left out move it to the right. -/
  exponent : Int
  /-- Whether a digit did not fit, so that those behind it are left out. -/
  full : Bool

namespace Significand

def next (number : Significand) (digit : Char) : Nat :=
  number.digits * 10 + digitValue digit

def takeWhole (number : Significand) (digit : Char) : Significand :=
  if number.full || number.next digit ≥ wordBound then
    { number with exponent := number.exponent + 1, full := true }
  else { number with digits := number.next digit }

def takeFraction (number : Significand) (digit : Char) : Significand :=
  if number.full || number.next digit ≥ wordBound then { number with full := true }
  else ⟨number.next digit, number.exponent - 1, false⟩

/-- The digits that fit into an unsigned word. The point makes room again, so that digits behind it are
taken as if no whole ones were left out. -/
def ofDigits (whole fraction : List Char) : Significand :=
  let afterWhole := whole.foldl takeWhole ⟨0, 0, false⟩
  fraction.foldl takeFraction { afterWhole with full := false }

end Significand

/-- `value * 10 ^ exponent` in steps of at most `10 ^ 308`, each one rounded. -/
def scaled? : Nat → Float → Int → Option Float
  | 0, _, _ => none
  | fuel + 1, value, exponent =>
    if exponent.natAbs ≤ 308 then
      let size := Float.ofScientific 1 false exponent.natAbs
      let result := if exponent ≥ 0 then value * size else value / size
      if result.isInf then none else some result
    else if value == 0.0 then some value
    else if exponent ≥ 0 then none
    else scaled? fuel (value / Float.ofScientific 1 false 308) (exponent + 308)

def floatOf? (negative : Bool) (whole fraction : List Char) (exponent : Int) : Option Float :=
  let number := Significand.ofDigits whole fraction
  let exponent := max (-100000) (min 100000 (exponent + number.exponent))
  (scaled? 400 (Float.ofNat number.digits) exponent).map fun value => if negative then -value else value

structure NumberText where
  negative : Bool
  whole : List Char
  fraction : Option (List Char)
  exponent : Option Int

def readExponent? (text : List Char) : Option (Int × List Char) :=
  let (negative, text) : Bool × List Char :=
    match text with
    | '-' :: rest => (true, rest)
    | '+' :: rest => (false, rest)
    | _ => (false, text)
  let digits := text.takeWhile isDigit
  if digits.isEmpty then none
  else
    let size : Int := digitsValue digits
    some (if negative then -size else size, text.dropWhile isDigit)

def readFractionPart? : List Char → Option (Option (List Char) × List Char)
  | '.' :: rest =>
    let digits := rest.takeWhile isDigit
    if digits.isEmpty then none else some (some digits, rest.dropWhile isDigit)
  | text => some (none, text)

def readExponentPart? (text : List Char) : Option (Option Int × List Char) :=
  if text.head? = some 'e' ∨ text.head? = some 'E' then
    (readExponent? (text.drop 1)).map fun part => (some part.1, part.2)
  else some (none, text)

def readNumberText? (text : List Char) : Option (NumberText × List Char) := do
  let negative := text.head? = some '-'
  let unsigned := if negative then text.drop 1 else text
  let whole := unsigned.takeWhile isDigit
  if whole.isEmpty || (whole.head? = some '0' && whole.length > 1) then none
  else
    let (fraction, rest) ← readFractionPart? (unsigned.dropWhile isDigit)
    let (exponent, rest) ← readExponentPart? rest
    return (⟨negative, whole, fraction, exponent⟩, rest)

/-- A whole number if it is written as one and fits into 64 bits, or else a float. -/
def NumberText.value? (number : NumberText) : Option Json :=
  let size : Int := digitsValue number.whole
  let value := if number.negative then -size else size
  let fits := leastI64 ≤ value && value < wordBound && !(number.negative && value = 0)
  if number.fraction.isNone && number.exponent.isNone && fits then some (.int value)
  else
    (floatOf? number.negative number.whole (number.fraction.getD []) (number.exponent.getD 0)).map
      Json.float

def readNumber? (text : List Char) : Option (Json × List Char) := do
  let (number, rest) ← readNumberText? text
  return (← number.value?, rest)

def keyword? (word : String) (value : Json) (text : List Char) : Option (Json × List Char) :=
  if word.toList.isPrefixOf text then some (value, text.drop word.length) else none

mutual
def readValue : Nat → Nat → List Char → Option (Json × List Char)
  | 0, _, _ => none
  | fuel + 1, depth, text =>
    match skipBlanks text with
    | '"' :: rest => (readString? ('"' :: rest)).map fun part => (.string part.1, part.2)
    | '[' :: rest =>
      if depth + 1 ≥ 128 then none
      else
        match skipBlanks rest with
        | ']' :: rest => some (.array [], rest)
        | rest => readItems fuel (depth + 1) [] rest
    | '{' :: rest =>
      if depth + 1 ≥ 128 then none
      else
        match skipBlanks rest with
        | '}' :: rest => some (.object [], rest)
        | rest => readMembers fuel (depth + 1) [] rest
    | 'n' :: rest => keyword? "null" .null ('n' :: rest)
    | 't' :: rest => keyword? "true" (.bool true) ('t' :: rest)
    | 'f' :: rest => keyword? "false" (.bool false) ('f' :: rest)
    | rest => readNumber? rest

def readItems : Nat → Nat → List Json → List Char → Option (Json × List Char)
  | 0, _, _, _ => none
  | fuel + 1, depth, collected, text => do
    let (item, rest) ← readValue fuel depth text
    match skipBlanks rest with
    | ',' :: rest => readItems fuel depth (item :: collected) rest
    | ']' :: rest => some (.array (item :: collected).reverse, rest)
    | _ => none

def readMembers : Nat → Nat → List (String × Json) → List Char → Option (Json × List Char)
  | 0, _, _, _ => none
  | fuel + 1, depth, collected, text => do
    let (name, rest) ← readString? (skipBlanks text)
    match skipBlanks rest with
    | ':' :: rest => do
      let (value, rest) ← readValue fuel depth rest
      match skipBlanks rest with
      | ',' :: rest => readMembers fuel depth ((name, value) :: collected) rest
      | '}' :: rest => some (.object ((name, value) :: collected).reverse, rest)
      | _ => none
    | _ => none
end

def read? (text : List Char) : Option Json := do
  let (value, rest) ← readValue (2 * text.length + 2) 0 text
  if (skipBlanks rest).isEmpty then some value else none

def ofText? (text : String) : Option Json :=
  read? text.toList

end LiveViews.Json
