import LiveViews.Decimal.Binary

/-!
Shortest decimal text of a float: the fewest digits that read back, and the nearest of those. They
are always written out in place, without an exponent and without a needless point.
-/

namespace LiveViews.Decimal

/-- The interval of numbers that round to a float, in quarter units of its last place. -/
structure Interval where
  /-- Four times the mantissa. -/
  value : Nat
  below : Nat
  above : Nat
  closed : Bool
  /-- One quarter unit is `numerator / denominator`. -/
  numerator : Nat
  denominator : Nat

def Binary.interval (number : Binary) : Interval :=
  let narrow := number.mantissa = Nat.pow 2 52 ∧ number.exponent > -1074
  let quarter := number.exponent - 2
  { value := 4 * number.mantissa
    below := 4 * number.mantissa - (if narrow then 1 else 2)
    above := 4 * number.mantissa + 2
    closed := number.mantissa % 2 = 0
    numerator := if 0 ≤ quarter then Nat.pow 2 quarter.toNat else 1
    denominator := if 0 ≤ quarter then 1 else Nat.pow 2 (-quarter).toNat }

def Interval.inUnits (interval : Interval) (place : Int) : Interval :=
  if 0 ≤ place then { interval with denominator := interval.denominator * Nat.pow 10 place.toNat }
  else { interval with numerator := interval.numerator * Nat.pow 10 (-place).toNat }

def Interval.contains (interval : Interval) (candidate : Nat) : Bool :=
  let point := candidate * interval.denominator
  let low := interval.below * interval.numerator
  let high := interval.above * interval.numerator
  if interval.closed then low ≤ point && point ≤ high else low < point && point < high

def Interval.nearest? (interval : Interval) : Option Nat :=
  let point := interval.value * interval.numerator
  let lower := point / interval.denominator
  let remainder := point % interval.denominator
  match interval.contains lower, interval.contains (lower + 1) with
  | true, true => some (if 2 * remainder ≤ interval.denominator then lower else lower + 1)
  | true, false => some lower
  | false, true => some (lower + 1)
  | false, false => none

def digitCount (value : Nat) : Nat :=
  (Nat.toDigits 10 value).length

/-- The place of the first digit of `numerator / denominator`, looked for downwards from `10 ^ 0`
in at most `fuel` steps. -/
def leadingPlaceBelow : Nat → Nat → Nat → Int
  | 0, _, _ => 0
  | fuel + 1, numerator, denominator =>
    if numerator ≥ denominator then 0
    else leadingPlaceBelow fuel (numerator * 10) denominator - 1

def Interval.leadingPlace (interval : Interval) : Int :=
  let numerator := interval.value * interval.numerator
  let whole := numerator / interval.denominator
  if whole ≠ 0 then (digitCount whole : Int) - 1
  else leadingPlaceBelow 400 numerator interval.denominator

def shortestFrom (interval : Interval) (leading : Int) : Nat → Nat → Nat × Int
  | 0, count => (0, leading - count)
  | fuel + 1, count =>
    let place := leading - count + 1
    match (interval.inUnits place).nearest? with
    | some digits => (digits, place)
    | none => shortestFrom interval leading fuel (count + 1)

/-- Moves a last digit of zero into the place, as after rounding up to the next power of ten. -/
def withoutTrailingZero (digits : Nat) (place : Int) : Nat × Int :=
  if digits ≥ 10 ∧ digits % 10 = 0 then (digits / 10, place + 1) else (digits, place)

def Binary.shortest (number : Binary) : Nat × Int :=
  if number.mantissa = 0 then (0, 0)
  else
    let (digits, place) := shortestFrom number.interval number.interval.leadingPlace 17 1
    withoutTrailingZero digits place

def positional (digits : Nat) (place : Int) : String :=
  let shown := Nat.toDigits 10 digits
  if 0 ≤ place then
    String.ofList (if digits = 0 then shown else shown ++ List.replicate place.toNat '0')
  else
    let fraction := (-place).toNat
    if shown.length > fraction then
      let whole := shown.length - fraction
      String.ofList (shown.take whole ++ '.' :: shown.drop whole)
    else
      String.ofList ('0' :: '.' :: (List.replicate (fraction - shown.length) '0' ++ shown))

def text (x : Float) : String :=
  match Binary.ofFloat? x with
  | none => if x != x then "NaN" else if x < 0 then "-inf" else "inf"
  | some number =>
    let (digits, place) := number.shortest
    (if number.negative then "-" else "") ++ positional digits place

end LiveViews.Decimal
