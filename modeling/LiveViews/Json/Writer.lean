import LiveViews.Decimal.Shortest
import LiveViews.Json.Basic
import LiveViews.Text.Hex

/-!
JSON text of a value, without white space.
-/

namespace LiveViews.Json

def escapeChar (c : Char) : List Char :=
  if c = '"' then ['\\', '"']
  else if c = '\\' then ['\\', '\\']
  else if c = '\n' then ['\\', 'n']
  else if c = '\r' then ['\\', 'r']
  else if c = '\t' then ['\\', 't']
  else if c = '\x08' then ['\\', 'b']
  else if c = '\x0c' then ['\\', 'f']
  else if c.toNat < 0x20 then
    ['\\', 'u', '0', '0', Text.hexDigit (c.toNat / 16), Text.hexDigit (c.toNat % 16)]
  else [c]

def quoted (text : String) : String :=
  String.ofList ('"' :: (text.toList.flatMap escapeChar ++ ['"']))

/-- A float keeps a mark that tells it from a whole number. -/
def floatText (value : Float) : String :=
  let plain := Decimal.text value
  if plain.toList.all fun c => c.isDigit || c = '-' then plain ++ ".0" else plain

mutual
def text : Json → String
  | .null => "null"
  | .bool value => if value then "true" else "false"
  | .int value => toString value
  | .float value => floatText value
  | .string content => quoted content
  | .array items => "[" ++ itemsText items ++ "]"
  | .object members => "\x7b" ++ membersText members ++ "\x7d"

def itemsText : List Json → String
  | [] => ""
  | [item] => item.text
  | item :: rest => item.text ++ "," ++ itemsText rest

def membersText : List (String × Json) → String
  | [] => ""
  | [(name, value)] => quoted name ++ ":" ++ value.text
  | (name, value) :: rest => quoted name ++ ":" ++ value.text ++ "," ++ membersText rest
end

end LiveViews.Json
