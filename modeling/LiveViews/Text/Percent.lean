import LiveViews.Text.Hex

/-!
Percent-encoding of bytes.
-/

namespace LiveViews.Text

def isUnreserved (c : Char) : Bool :=
  c.isAlphanum || c = '-' || c = '.' || c = '_'

def percentByte (byte : UInt8) : List Char :=
  ['%', hexDigitUpper (byte.toNat / 16), hexDigitUpper (byte.toNat % 16)]

/-- Letters, digits, hyphens, points and underscores stay; every other byte is encoded. -/
def percentEncode (text : List Char) : List Char :=
  text.flatMap fun c =>
    if isUnreserved c then [c] else (String.singleton c).toUTF8.toList.flatMap percentByte

def hexByteValue? (byte : UInt8) : Option Nat :=
  let code := byte.toNat
  if 48 ≤ code ∧ code ≤ 57 then some (code - 48)
  else if 65 ≤ code ∧ code ≤ 70 then some (code - 55)
  else if 97 ≤ code ∧ code ≤ 102 then some (code - 87)
  else none

def escaped? (high low : UInt8) : Option UInt8 := do
  let high ← hexByteValue? high
  let low ← hexByteValue? low
  return UInt8.ofNat (high * 16 + low)

/-- The bytes with every complete escape replaced; what is no escape stays. -/
def percentDecodeBytes : List UInt8 → List UInt8
  | 37 :: high :: low :: rest =>
    match escaped? high low with
    | some byte => byte :: percentDecodeBytes rest
    | none => 37 :: percentDecodeBytes (high :: low :: rest)
  | byte :: rest => byte :: percentDecodeBytes rest
  | [] => []

def percentDecode? (text : String) : Option String :=
  String.fromUTF8? ⟨(percentDecodeBytes text.toUTF8.toList).toArray⟩

end LiveViews.Text
