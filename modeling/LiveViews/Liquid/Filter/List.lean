import LiveViews.Liquid.Compare
import LiveViews.Liquid.Filter.Basic
import LiveViews.Text.Case

/-!
Filters on lists. Sorting keeps the order of equal items and puts nil last.
-/

namespace LiveViews.Liquid.ListFilter

/-- Puts an item before the last items that are greater than it; `sorted` stands in reverse. -/
def insertFromEnd {α : Type} (isLess : α → α → Bool) (item : α) : List α → List α
  | [] => [item]
  | last :: before =>
    if isLess item last then last :: insertFromEnd isLess item before else item :: last :: before

def sortBy {α : Type} (isLess : α → α → Bool) (items : List α) : List α :=
  (items.foldl (fun sorted item => insertFromEnd isLess item sorted) []).reverse

def nilLast (a b : Value) : Option Ordering :=
  match a.isNil, b.isNil with
  | true, true => some .eq
  | true, false => some .gt
  | false, true => some .lt
  | false, false => a.order? b

def naturalKey (value : Value) : Option String :=
  if value.isNil then none else some (String.ofList (Text.lowercase value.render.toList))

def naturalLess : Option String → Option String → Bool
  | none, _ => false
  | some _, none => true
  | some a, some b => a < b

def sequence : Value → List Value
  | .array items => items
  | .nil => []
  | value => [value]

def property (name : String) (value : Value) : Value :=
  match value with
  | .object members => (Members.get? members name).getD .nil
  | _ => .nil

def propertyOf (name : Option String) (value : Value) : Value :=
  match name with
  | some name => property name value
  | none => value

def sorted (name : Option String) (isLess : Value → Value → Bool) (input : Value) :
    Except Stop Value :=
  let items := sequence input
  if name.isSome && !items.all Value.isObject then .error (.failed .invalidInput)
  else .ok (.array (sortBy (fun a b => isLess (propertyOf name a) (propertyOf name b)) items))

def sort (name : Option String) : Value → Except Stop Value :=
  sorted name fun a b => nilLast a b = some .lt

def sortNatural (name : Option String) : Value → Except Stop Value :=
  sorted name fun a b => naturalLess (naturalKey a) (naturalKey b)

def onArray (operation : List Value → Except Stop Value) : Value → Except Stop Value
  | .array items => operation items
  | _ => .error (.failed .invalidInput)

def compact (name : Option String) : Value → Except Stop Value :=
  onArray fun items =>
    if name.isSome && !items.all Value.isObject then .error (.failed .invalidInput)
    else .ok (.array (items.filter fun item => !(propertyOf name item).isNil))

def concat (other : Value) : Value → Except Stop Value :=
  onArray fun items =>
    match other with
    | .array others => .ok (.array (items ++ others))
    | _ => .error (.failed .invalidArgument)

def map (name : String) : Value → Except Stop Value :=
  onArray fun items => .ok (.array (items.filterMap fun
    | .object members => Members.get? members name
    | _ => none))

def distinct (items : List Value) : List Value :=
  items.foldl (fun kept item =>
    if kept.any fun earlier => earlier.equal item then kept else kept ++ [item]) []

def uniq : Value → Except Stop Value :=
  onArray fun items => .ok (.array (distinct items))

def reverse : Value → Except Stop Value :=
  onArray fun items => .ok (.array items.reverse)

/-- The objects whose property equals the target, or is truthy where there is none. -/
def selectWhere (name : String) (target : Option Value) (input : Value) : Except Stop Value :=
  let chosen (value : Value) : Bool :=
    match value with
    | .object members =>
      match Members.get? members name, target with
      | none, _ => false
      | some member, some target => target.equal member
      | some member, none => member.isTruthy
    | _ => false
  match input with
  | .array items =>
    if items.all Value.isObject then .ok (.array (items.filter chosen)) else .ok .nil
  | .object members => .ok (.array ([Value.object members].filter chosen))
  | _ => .error (.failed .invalidInput)

def endOf (item? : List Value → Option Value) (char? : List Char → Option Char) (input : Value) :
    Except Stop Value :=
  match input with
  | .array items => .ok ((item? items).getD .nil)
  | .nil | .state _ | .object _ => .error (.failed .invalidInput)
  | scalar => .ok (.text (((char? scalar.render.toList).map String.singleton).getD ""))

end LiveViews.Liquid.ListFilter
