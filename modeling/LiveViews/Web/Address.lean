import LiveViews.Text.Numeral
import LiveViews.Text.Search

/-!
Addresses to listen at, and the search for a free port.
-/

namespace LiveViews.Web

open LiveViews.Text

structure Address where
  a : Nat
  b : Nat
  c : Nat
  d : Nat
  deriving DecidableEq

def readOctet? (text : List Char) : Option Nat := do
  let value ← readDigits? text
  if value < 256 && (text.head? ≠ some '0' || text.length = 1) then return value else none

def Address.read? (text : String) : Option Address := do
  match splitOn ['.'] text.toList with
  | [a, b, c, d] =>
    return ⟨← readOctet? a, ← readOctet? b, ← readOctet? c, ← readOctet? d⟩
  | _ => none

def Address.text (address : Address) : String :=
  toString address.a ++ "." ++ toString address.b ++ "." ++ toString address.c ++ "." ++
    toString address.d

def greatestPort : Nat := 65535

def attempts : Nat := 10

/-- The port `offset` places behind another one, or the last there is. -/
def portBehind (base offset : Nat) : Nat :=
  min (base + offset) greatestPort

def triedPorts (base : Nat) : List (Nat × Nat) :=
  (List.range attempts).map fun offset => (offset, portBehind base offset)

def findPort (isFree : Nat → Bool) (base : Nat) : Option (Nat × Nat) :=
  (triedPorts base).find? fun item => isFree item.2

def bindComplaint (base : Nat) : String :=
  "Failed to bind after " ++ toString attempts ++ " attempts (ports " ++ toString base ++ "-" ++
    toString (portBehind base (attempts - 1)) ++ ")"

end LiveViews.Web
