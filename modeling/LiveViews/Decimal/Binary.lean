/-!
Binary fractions: the exact number behind a float, and what is computed from it without rounding.
-/

namespace LiveViews.Decimal

/-- The number `mantissa * 2 ^ exponent`, negated if `negative`. -/
structure Binary where
  negative : Bool
  mantissa : Nat
  exponent : Int

def Binary.ofFloat? (x : Float) : Option Binary :=
  let bits := x.toBits.toNat
  let negative := bits / Nat.pow 2 63 = 1
  let field : Nat := bits / Nat.pow 2 52 % 2048
  let fraction : Nat := bits % Nat.pow 2 52
  if field = 2047 then none
  else if field = 0 then some ⟨negative, fraction, -1074⟩
  else some ⟨negative, fraction + Nat.pow 2 52, (field : Int) - 1075⟩

def Binary.reduce : Nat → Binary → Binary
  | 0, number => number
  | fuel + 1, number =>
    if number.mantissa ≠ 0 ∧ number.mantissa % 2 = 0 then
      reduce fuel { number with mantissa := number.mantissa / 2, exponent := number.exponent + 1 }
    else number

def Binary.toFloat (number : Binary) : Float :=
  let least := number.reduce (number.mantissa.log2 + 1)
  let size := (Float.ofNat least.mantissa).scaleB least.exponent
  if number.negative then -size else size

def Binary.toInt (number : Binary) : Int :=
  let size : Nat :=
    if 0 ≤ number.exponent then number.mantissa * Nat.pow 2 number.exponent.toNat
    else number.mantissa / Nat.pow 2 (-number.exponent).toNat
  if number.negative then -(size : Int) else size

/-- What is left of `left` after taking `right` out as often as it goes; it has the sign of
`left`. -/
def Binary.remainder (left right : Binary) : Binary :=
  let exponent := min left.exponent right.exponent
  let scaled (number : Binary) : Nat := number.mantissa * Nat.pow 2 (number.exponent - exponent).toNat
  ⟨left.negative, scaled left % scaled right, exponent⟩

def remainder (left right : Float) : Float :=
  match Binary.ofFloat? left, Binary.ofFloat? right with
  | none, _ => 0.0 / 0.0
  | some _, none => if right != right then right else left
  | some a, some b => if b.mantissa = 0 then 0.0 / 0.0 else (a.remainder b).toFloat

/-- The whole part of a float, held within `least` and `greatest`; zero for undefined results. -/
def toIntWithin (least greatest : Int) (x : Float) : Int :=
  match Binary.ofFloat? x with
  | some number => max least (min greatest number.toInt)
  | none => if x != x then 0 else if x < 0 then least else greatest

def power (base : Float) : Nat → Nat → Float → Float
  | 0, _, result => result
  | fuel + 1, exponent, result =>
    let result := if exponent % 2 = 1 then result * base else result
    if exponent / 2 = 0 then result else power (base * base) fuel (exponent / 2) result

end LiveViews.Decimal
