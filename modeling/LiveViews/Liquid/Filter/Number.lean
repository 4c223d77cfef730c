import LiveViews.Decimal.Binary
import LiveViews.Liquid.Filter.Basic

/-!
Filters on numbers. Text that spells a number counts as one. Whole numbers stay whole; a result
outside 64 bits ends the run.
-/

namespace LiveViews.Liquid.NumberFilter

open LiveViews.Text LiveViews.Decimal

def whole (value : Int) : Except Stop Value :=
  if fitsI64 value then .ok (.int value) else .error .crashed

def combine (onWhole : Int → Int → Except Stop Value) (onFloats : Float → Float → Float)
    (input operand : Value) : Except Stop Value :=
  if !input.isScalar then .error (.failed .invalidInput)
  else if !operand.isScalar then .error (.failed .invalidArgument)
  else
    match input.integer?, operand.integer? with
    | some a, some b => onWhole a b
    | _, _ =>
      match input.number?, operand.number? with
      | some a, some b => .ok (.float (onFloats a b))
      | _, _ => .error (.failed .invalidArgument)

/-- The greater of two floats; an undefined one gives way. -/
def greaterFloat (a b : Float) : Float :=
  if a != a then b else if b != b then a else if a < b then b else a

def lesserFloat (a b : Float) : Float :=
  if a != a then b else if b != b then a else if b < a then b else a

def atLeast : Value → Value → Except Stop Value :=
  combine (fun a b => whole (max a b)) greaterFloat

def atMost : Value → Value → Except Stop Value :=
  combine (fun a b => whole (min a b)) lesserFloat

def plus : Value → Value → Except Stop Value :=
  combine (fun a b => whole (a + b)) (· + ·)

def minus : Value → Value → Except Stop Value :=
  combine (fun a b => whole (a - b)) (· - ·)

def times : Value → Value → Except Stop Value :=
  combine (fun a b => whole (a * b)) (· * ·)

def divide (operation : Value → Value → Except Stop Value) (input divisor : Value) :
    Except Stop Value :=
  if input.isScalar && (divisor.number?.any fun number => number == 0.0) then
    .error (.failed .invalidArgument)
  else operation input divisor

def dividedBy : Value → Value → Except Stop Value :=
  divide (combine (fun a b => whole (a.tdiv b)) (· / ·))

/-- The remainder with the sign of the dividend, where the quotient fits its word. -/
def modulo : Value → Value → Except Stop Value :=
  divide (combine (fun a b => (whole (a.tdiv b)).bind fun _ => whole (a.tmod b)) remainder)

def abs (input : Value) : Except Stop Value :=
  match input.isScalar, input.integer?, input.number? with
  | true, some value, _ => whole value.natAbs
  | true, none, some value => .ok (.float value.abs)
  | _, _, _ => .error (.failed .invalidInput)

def toWhole (step : Float → Float) (input : Value) : Except Stop Value :=
  match input.number? with
  | some value => .ok (.int (toIntWithin leastI64 greatestI64 (step value)))
  | none => .error (.failed .invalidInput)

def greatestPlaces : Int := 2147483647

/-- Rounds half away from zero, to a number of decimal places if there are any. -/
def round (places : Int) (input : Value) : Except Stop Value :=
  match input.number? with
  | none => .error (.failed .invalidInput)
  | some value =>
    if places ≤ 0 then toWhole Float.round input
    else if places > greatestPlaces then .error (.failed .invalidInput)
    else
      let scale := power 10.0 32 places.toNat 1.0
      .ok (.float ((value * scale).round / scale))

end LiveViews.Liquid.NumberFilter
