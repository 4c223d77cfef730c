import LiveViews.Liquid.Error
import LiveViews.Liquid.Value

/-!
Variables: where a name is looked up, and how a path of indexes leads into its value.

The nearest layer that holds the first name decides; it does not matter whether the rest of the
path can be followed there.
-/

namespace LiveViews.Liquid

inductive Operand where
  | literal (value : Value)
  | variable (name : String) (indexes : List Operand)
  deriving Inhabited

structure Variables where
  /-- Loop variables and arguments, innermost first. -/
  layers : List Members
  assigned : Members
  globals : Members
  counters : Members
  now : Int

def Value.itemAt? (items : List Value) (index : Int) : Option Value :=
  let place := if index < 0 then index + items.length else index
  if place < 0 then none else items[place.toNat]?

def Value.index? (value index : Value) : Option Value :=
  match value with
  | .array items =>
    match index.integer? with
    | some place => itemAt? items place
    | none =>
      match index.render with
      | "first" => items.head?
      | "last" => items.getLast?
      | "size" => some (.int items.length)
      | _ => none
  | .object members =>
    match Members.get? members index.render with
    | some member => some member
    | none => if index.render = "size" then some (.int members.length) else none
  | .nil | .state _ => none
  | scalar => if index.render = "size" then some (.int scalar.size) else none

def Value.follow? : Value → List Value → Option Value
  | value, [] => some value
  | value, index :: rest => (value.index? index).bind fun inner => inner.follow? rest

def Value.knownIndexes : Value → String
  | .array items =>
    let places := if items.isEmpty then [] else ["0.." ++ toString (items.length - 1)]
    ", ".intercalate (places ++ ["first", "last"])
  | .object members => ", ".intercalate (members.map Prod.fst)
  | _ => ""

def Value.missingIndex (path : String) : Value → List Value → EngineError
  | _, [] => .unknownVariable path
  | value, index :: rest =>
    match value.index? index with
    | some inner => inner.missingIndex (path ++ "." ++ index.render) rest
    | none => .unknownIndex path index.render value.knownIndexes

/-- The value of a name: the nearest layer, then assignments, then globals, then counters. -/
def Variables.root? (scope : Variables) (name : String) : Option Value :=
  (scope.layers ++ [scope.assigned, scope.globals, scope.counters]).findSome?
    fun layer => Members.get? layer name

def Variables.get (scope : Variables) (name : String) (path : List Value) :
    Except EngineError Value :=
  match scope.root? name with
  | none => .error (.unknownVariable name)
  | some value =>
    match value.follow? path with
    | some found => .ok found
    | none => .error (value.missingIndex name path)

namespace Operand

mutual
def evaluate (scope : Variables) : Operand → Except EngineError Value
  | .literal value => .ok value
  | .variable name indexes => do
    let path ← evaluateIndexes scope indexes
    scope.get name path

def evaluateIndexes (scope : Variables) : List Operand → Except EngineError (List Value)
  | [] => .ok []
  | index :: rest => do
    let value ← index.evaluate scope
    if value.isScalar then
      let values ← evaluateIndexes scope rest
      .ok (value :: values)
    else .error (.expected "scalar" value.source)
end

def evaluate? (scope : Variables) (operand : Operand) : Option Value :=
  (operand.evaluate scope).toOption

mutual
def source : Operand → String
  | .literal value => value.source
  | .variable name indexes => name ++ sourceIndexes indexes

def sourceIndexes : List Operand → String
  | [] => ""
  | index :: rest => "[" ++ index.source ++ "]" ++ sourceIndexes rest
end

mutual
def fits : Operand → Bool
  | .literal (.int value) => Text.fitsI64 value
  | .literal _ => true
  | .variable _ indexes => fitAll indexes

def fitAll : List Operand → Bool
  | [] => true
  | index :: rest => index.fits && fitAll rest
end

end Operand

end LiveViews.Liquid
