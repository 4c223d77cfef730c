/-!
Decimal numerals: an optional sign and at least one digit. Bounds are those of the word that holds
the number.
-/

namespace LiveViews.Text

def isDigit (c : Char) : Bool :=
  '0' ≤ c && c ≤ '9'

def digitValue (c : Char) : Nat :=
  c.toNat - '0'.toNat

def digitsValue (digits : List Char) : Nat :=
  digits.foldl (fun value digit => value * 10 + digitValue digit) 0

def readDigits? (text : List Char) : Option Nat :=
  if text.isEmpty || !text.all isDigit then none else some (digitsValue text)

def readInteger? : List Char → Option Int
  | '-' :: digits => (readDigits? digits).map fun value => -(value : Int)
  | '+' :: digits => (readDigits? digits).map fun value => (value : Int)
  | digits => (readDigits? digits).map fun value => (value : Int)

def leastI64 : Int := -9223372036854775808
def greatestI64 : Int := 9223372036854775807

def fitsI64 (value : Int) : Bool :=
  leastI64 ≤ value && value ≤ greatestI64

def readI64? (text : List Char) : Option Int :=
  (readInteger? text).filter fitsI64

def readUnsigned? (bound : Nat) : List Char → Option Nat
  | '+' :: digits => (readDigits? digits).filter (· < bound)
  | digits => (readDigits? digits).filter (· < bound)

def wordBound : Nat := 18446744073709551616

end LiveViews.Text
