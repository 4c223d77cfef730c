import LiveViews.Decimal.Reading
import LiveViews.Text.Hex
import LiveViews.Text.Search

/-!
Numbers in TOML. A whole number has to fit into 64 bits; a float must not be too large.
-/

namespace LiveViews.Toml

open LiveViews.Text

def readDigitsOf (isDigit : Char → Bool) : List Char → Option (List Char × List Char)
  | [] => none
  | c :: rest =>
    if !isDigit c then none
    else
      match rest with
      | '_' :: d :: more =>
        if isDigit d then
          (readDigitsOf isDigit (d :: more)).map fun (digits, rest) => (c :: digits, rest)
        else some ([c], rest)
      | d :: more =>
        if isDigit d then
          (readDigitsOf isDigit (d :: more)).map fun (digits, rest) => (c :: digits, rest)
        else some ([c], rest)
      | [] => some ([c], rest)

def digitsIn (base : Nat) (c : Char) : Bool :=
  (hexValue? c).any fun value => value < base

def valueIn (base : Nat) (digits : List Char) : Int :=
  digits.foldl (fun value digit => value * base + ((hexValue? digit).getD 0 : Nat)) (0 : Int)

def readBased? (base : Nat) (text : List Char) : Option (Int × List Char) := do
  let (digits, rest) ← readDigitsOf (digitsIn base) text
  let value := valueIn base digits
  if fitsI64 value then return (value, rest) else none

def readDecimal? (negative : Bool) (text : List Char) : Option (Int × List Char) := do
  let (digits, rest) ← readDigitsOf isDigit text
  let value := if negative then -(valueIn 10 digits) else valueIn 10 digits
  if (digits.head? = some '0' && digits.length > 1) || !fitsI64 value then none
  else return (value, rest)

def readInteger? : List Char → Option (Int × List Char)
  | '0' :: 'x' :: rest => readBased? 16 rest
  | '0' :: 'o' :: rest => readBased? 8 rest
  | '0' :: 'b' :: rest => readBased? 2 rest
  | '+' :: rest => readDecimal? false rest
  | '-' :: rest => readDecimal? true rest
  | text => readDecimal? false text

def readSign : List Char → List Char × List Char
  | '-' :: rest => (['-'], rest)
  | '+' :: rest => ([], rest)
  | text => ([], text)

def readPlaces? : List Char → Option (List Char × List Char)
  | '.' :: rest => (readDigitsOf isDigit rest).map fun (digits, rest) => ('.' :: digits, rest)
  | text => some ([], text)

def readPower? : List Char → Option (List Char × List Char)
  | c :: rest =>
    if c = 'e' ∨ c = 'E' then
      let (sign, rest) := readSign rest
      (readDigitsOf isDigit rest).map fun (digits, rest) => ('e' :: sign ++ digits, rest)
    else some ([], c :: rest)
  | [] => some ([], [])

def readFloat? (text : List Char) : Option (Float × List Char) := do
  let (sign, unsigned) := readSign text
  let (whole, rest) ← readDigitsOf isDigit unsigned
  let (places, rest) ← readPlaces? rest
  let (power, rest) ← readPower? rest
  if (whole.head? = some '0' && whole.length > 1) || (places.isEmpty && power.isEmpty) then none
  else
    let value ← Decimal.readFloat? (sign ++ whole ++ places ++ power)
    if value.isInf && value > 0 then none else return (value, rest)

def readUnlimited? (text : List Char) : Option (Float × List Char) :=
  let (sign, word) := readSign text
  let infinity : Float := 1.0 / 0.0
  match stripPrefix? "inf".toList word, stripPrefix? "nan".toList word with
  | some rest, _ => some (if sign.isEmpty then infinity else -infinity, rest)
  | none, some rest => some (0.0 / 0.0, rest)
  | none, none => none

end LiveViews.Toml
