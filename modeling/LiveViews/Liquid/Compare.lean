import LiveViews.Liquid.Value

/-!
Equality and order of values. A truth value equals every scalar if it is true; nil equals what is
false; a state literal equals the values in that state. Unlike kinds have no order.
-/

namespace LiveViews.Liquid.Value

def scalarsEqual : Value → Value → Bool
  | .int a, .int b => a = b
  | .int a, .float b => Float.ofInt a == b
  | .float a, .int b => a == Float.ofInt b
  | .float a, .float b => a == b
  | .bool a, .bool b => a = b
  | .text a, .text b => a = b
  | _, .bool b => b
  | .bool a, _ => a
  | _, _ => false

def scalarEqualsOther (scalar other : Value) : Bool :=
  match scalar with
  | .bool value => if other.isNil then !value else value
  | _ => false

def plainEqual (a b : Value) : Bool :=
  if a.isNil && b.isNil then true
  else
    match a, b with
    | .state named, other => other.isIn named
    | other, .state named => other.isIn named
    | _, _ =>
      match a.isScalar, b.isScalar with
      | true, true => scalarsEqual a b
      | true, false => scalarEqualsOther a b
      | false, true => scalarEqualsOther b a
      | false, false => false

mutual
def equal : Value → Value → Bool
  | .array items, .array others => equalItems items others
  | .object members, .object others =>
    members.length = others.length && equalMembers members others
  | a, b => plainEqual a b

def equalItems : List Value → List Value → Bool
  | [], [] => true
  | item :: rest, other :: others => item.equal other && equalItems rest others
  | _, _ => false

def equalMembers : List (String × Value) → Members → Bool
  | [], _ => true
  | (name, value) :: rest, others =>
    (match Members.get? others name with
      | some other => value.equal other
      | none => false) && equalMembers rest others
end

def compareFloats (a b : Float) : Option Ordering :=
  if a < b then some .lt
  else if b < a then some .gt
  else if a == b then some .eq
  else none

def compareScalars : Value → Value → Option Ordering
  | .int a, .int b => some (compare a b)
  | .int a, .float b => compareFloats (Float.ofInt a) b
  | .float a, .int b => compareFloats a (Float.ofInt b)
  | .float a, .float b => compareFloats a b
  | .bool a, .bool b => some (compare a b)
  | .text a, .text b => some (compare a b)
  | _, _ => none

def thenCompare (first later : Option Ordering) : Option Ordering :=
  match first with
  | some .eq => later
  | other => other

mutual
def order? : Value → Value → Option Ordering
  | .array items, .array others => orderItems items others
  | .object members, .object others => orderMembers members others
  | a, b => compareScalars a b

def orderItems : List Value → List Value → Option Ordering
  | [], [] => some .eq
  | [], _ :: _ => some .lt
  | _ :: _, [] => some .gt
  | item :: rest, other :: others => thenCompare (item.order? other) (orderItems rest others)

def orderMembers : List (String × Value) → Members → Option Ordering
  | [], [] => some .eq
  | [], _ :: _ => some .lt
  | _ :: _, [] => some .gt
  | (name, value) :: rest, (otherName, other) :: others =>
    thenCompare (some (compare name otherName))
      (thenCompare (value.order? other) (orderMembers rest others))
end

end LiveViews.Liquid.Value
