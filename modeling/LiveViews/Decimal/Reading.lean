import LiveViews.Text.Numeral

/-!
Reading a decimal number as the nearest float.
-/

namespace LiveViews.Decimal

open LiveViews.Text

def ofDecimal (digits : Nat) (exponent : Int) : Float :=
  let leading := ((Nat.toDigits 10 digits).length : Int) + exponent
  if digits = 0 ∨ leading < -400 then 0.0
  else if leading > 400 then 1.0 / 0.0
  else if exponent ≥ 0 then Float.ofScientific digits false exponent.toNat
  else Float.ofScientific digits true (-exponent).toNat

def readFraction (text : List Char) : (List Char × List Char) × List Char :=
  let whole := text.takeWhile isDigit
  match text.dropWhile isDigit with
  | '.' :: rest => ((whole, rest.takeWhile isDigit), rest.dropWhile isDigit)
  | rest => ((whole, []), rest)

def readExponent? : List Char → Option Int
  | [] => some 0
  | 'e' :: rest | 'E' :: rest => readInteger? rest
  | _ => none

def readUnsigned? (text : List Char) : Option Float :=
  let lowered := text.map Char.toLower
  if lowered = "inf".toList ∨ lowered = "infinity".toList then some (1.0 / 0.0)
  else if lowered = "nan".toList then some (0.0 / 0.0)
  else
    let ((whole, fraction), rest) := readFraction text
    if whole.isEmpty && fraction.isEmpty then none
    else (readExponent? rest).map fun exponent =>
      ofDecimal (digitsValue (whole ++ fraction)) (exponent - fraction.length)

def readFloat? : List Char → Option Float
  | '-' :: rest => (readUnsigned? rest).map fun value => -value
  | '+' :: rest => readUnsigned? rest
  | text => readUnsigned? text

end LiveViews.Decimal
