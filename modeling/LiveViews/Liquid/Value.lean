import LiveViews.Decimal.Reading
import LiveViews.Decimal.Shortest
import LiveViews.Json.Basic
import LiveViews.Text.Blank

/-!
Values of the template language: what they print, what they count as, and what is true of them.
-/

namespace LiveViews.Liquid

/-- The literals `empty` and `blank`, which stand for a state that values are compared with. -/
inductive Emptiness where
  | empty
  | blank
  deriving DecidableEq

inductive Value where
  | nil
  | bool (value : Bool)
  | int (value : Int)
  | float (value : Float)
  | text (value : String)
  | state (value : Emptiness)
  | array (items : List Value)
  | object (members : List (String × Value))
  deriving Inhabited

/-- Named values; of two with one name the first counts. -/
abbrev Members := List (String × Value)

def Members.get? (members : Members) (name : String) : Option Value :=
  (members.find? fun member => member.1 = name).map Prod.snd

def Members.has (members : Members) (name : String) : Bool :=
  (Members.get? members name).isSome

def Members.set (members : Members) (name : String) (value : Value) : Members :=
  match members with
  | [] => [(name, value)]
  | member :: rest =>
    if member.1 = name then (name, value) :: rest
    else member :: Members.set rest name value

namespace Value

def boolText (value : Bool) : String :=
  if value then "true" else "false"

mutual
def render : Value → String
  | .nil => ""
  | .bool value => boolText value
  | .int value => toString value
  | .float value => Decimal.text value
  | .text value => value
  | .state _ => ""
  | .array items => renderItems items
  | .object members => renderMembers members

def renderItems : List Value → String
  | [] => ""
  | item :: rest => item.render ++ renderItems rest

def renderMembers : List (String × Value) → String
  | [] => ""
  | (name, value) :: rest => name ++ value.render ++ renderMembers rest
end

/-- How a value is written in error messages and cycle names. What is inside an array or an object is
written as it prints. -/
def source : Value → String
  | .nil => "nil"
  | .bool value => boolText value
  | .int value => toString value
  | .float value => Decimal.text value
  | .text value => "\"" ++ value ++ "\""
  | .state .empty => "empty"
  | .state .blank => "blank"
  | .array items => "[" ++ String.join (items.map fun item => item.render ++ ", ") ++ "]"
  | .object members =>
    let written := members.map fun member => "\"" ++ member.1 ++ "\": " ++ member.2.render ++ ", "
    "\x7b" ++ String.join written ++ "\x7d"

def kind : Value → String
  | .nil => "nil"
  | .bool _ => "boolean"
  | .int _ => "whole number"
  | .float _ => "fractional number"
  | .text _ => "string"
  | .state .empty => "empty"
  | .state .blank => "blank"
  | .array _ => "array"
  | .object _ => "object"

def isNil : Value → Bool
  | .nil => true
  | _ => false

def isScalar : Value → Bool
  | .bool _ | .int _ | .float _ | .text _ => true
  | _ => false

def isObject : Value → Bool
  | .object _ => true
  | _ => false

def integer? : Value → Option Int
  | .int value => some value
  | .text value => Text.readI64? value.toList
  | _ => none

def number? : Value → Option Float
  | .int value => some (Float.ofInt value)
  | .float value => some value
  | .text value => Decimal.readFloat? value.toList
  | _ => none

def isTruthy : Value → Bool
  | .nil | .bool false | .state _ => false
  | _ => true

def isReplaceable : Value → Bool
  | .nil | .bool false | .state _ => true
  | .text value => value.isEmpty
  | .array items => items.isEmpty
  | .object members => members.isEmpty
  | _ => false

def isIn (state : Emptiness) : Value → Bool
  | .nil | .state _ => true
  | .bool value => !value && state = .blank
  | .text value => value.isEmpty || (state = .blank && Text.blankText value)
  | .array items => items.isEmpty
  | .object members => members.isEmpty
  | _ => false

/-- The number of items, members, or bytes of the text; nothing has the size zero. -/
def size : Value → Nat
  | .nil | .state _ => 0
  | .array items => items.length
  | .object members => members.length
  | value => value.render.utf8ByteSize

mutual
/-- A value of a template from a JSON value; none for a whole number above 64 bits. A repeated
member name keeps its last value. -/
def ofJson? : Json → Option Value
  | .null => some .nil
  | .bool value => some (.bool value)
  | .int value => if Text.fitsI64 value then some (.int value) else none
  | .float value => some (.float value)
  | .string value => some (.text value)
  | .array items => (ofJsonItems? items).map .array
  | .object members => (ofJsonMembers? members []).map .object

def ofJsonItems? : List Json → Option (List Value)
  | [] => some []
  | item :: rest => do
    let value ← ofJson? item
    let values ← ofJsonItems? rest
    return value :: values

def ofJsonMembers? : List (String × Json) → Members → Option Members
  | [], members => some members
  | (name, item) :: rest, members => do
    let value ← ofJson? item
    ofJsonMembers? rest (members.set name value)
end

end Value

end LiveViews.Liquid
