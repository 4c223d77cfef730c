/-!
JSON values. Whole numbers and floats stay apart; members keep their order.
-/

namespace LiveViews

inductive Json where
  | null
  | bool (value : Bool)
  | int (value : Int)
  | float (value : Float)
  | string (text : String)
  | array (items : List Json)
  | object (members : List (String × Json))
  deriving Inhabited

namespace Json

def string? : Json → Option String
  | .string text => some text
  | _ => none

def bool? : Json → Option Bool
  | .bool value => some value
  | _ => none

def array? : Json → Option (List Json)
  | .array items => some items
  | _ => none

end Json

end LiveViews
