import LiveViews.Json.Basic

/-!
Records in JSON: an object with a member for each field, or an array of the fields in their order.
-/

namespace LiveViews.Json

inductive RecordForm where
  | json
  | toml
  deriving DecidableEq

def occurrences (name : String) (members : List (String × Json)) : List Json :=
  (members.filter fun member => member.1 = name).map Prod.snd

/-- The one value of a field, or its absence; a field may not be given twice. -/
def fieldOf? (members : List (String × Json)) (name : String) : Option (Option Json) :=
  match occurrences name members with
  | [] => some none
  | [value] => some (some value)
  | _ => none

/-- The values of the fields in their order. An object may hold no other members; an array may leave
out the last fields. TOML passes over what an array holds behind them. -/
def fields? (form : RecordForm) (names : List String) (value : Json) :
    Option (List (Option Json)) :=
  match value with
  | .object members =>
    if members.any fun member => !names.contains member.1 then none
    else names.mapM (fieldOf? members)
  | .array items =>
    if items.length ≤ names.length || form = .toml then
      let taken := items.take names.length
      some (taken.map some ++ List.replicate (names.length - taken.length) none)
    else none
  | _ => none

def need {α : Type} (read : Json → Option α) (field : Option Json) : Option α :=
  field.bind read

def orDefault {α : Type} (default : α) (read : Json → Option α) (field : Option Json) : Option α :=
  match field with
  | none => some default
  | some value => read value

def nullable {α : Type} (read : Json → Option α) : Json → Option (Option α)
  | .null => some none
  | value => (read value).map some

def ofOption {α : Type} (write : α → Json) : Option α → Json
  | some value => write value
  | none => .null

def whole? (least greatest : Int) : Json → Option Int
  | .int value => if least ≤ value ∧ value ≤ greatest then some value else none
  | _ => none

end LiveViews.Json
