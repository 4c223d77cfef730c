import LiveViews.Text.Search
import LiveViews.Toml.Number
import LiveViews.Toml.Table
import LiveViews.Toml.Text
import LiveViews.Toml.Time

/-!
Reading TOML. A date or a time becomes an object of its own, which no record takes.
-/

namespace LiveViews.Toml

open LiveViews.Text

def keyword? (word : String) (value : Json) (text : List Char) : Option (Json × List Char) :=
  (stripPrefix? word.toList text).map fun rest => (value, rest)

def timeValue (text : List Char) : Json :=
  .object [("time", .string (String.ofList text))]

def readPlain? (text : List Char) : Option (Json × List Char) :=
  match passTime? text with
  | some rest => some (timeValue (text.take (text.length - rest.length)), rest)
  | none =>
    (readFloat? text <|> readUnlimited? text).map (fun (value, rest) => (Json.float value, rest))
      <|> (readInteger? text).map fun (value, rest) => (Json.int value, rest)

mutual
def readValue : Nat → Nat → List Char → Option (Json × List Char)
  | 0, _, _ => none
  | fuel + 1, depth, text =>
    match text with
    | '"' :: _ | '\'' :: _ =>
      (readString? text).map fun (content, rest) => (.string (String.ofList content), rest)
    | '[' :: rest =>
      if depth + 1 ≥ deepest then none
      else
        match skipBlankLines rest with
        | ']' :: rest => some (.array [], rest)
        | rest => readItems fuel (depth + 1) [] rest
    | '{' :: rest =>
      if depth + 1 ≥ deepest then none
      else
        match skipSpaces rest with
        | '}' :: rest => some (.object [], rest)
        | rest => readPairs fuel (depth + 1) .empty rest
    | 't' :: _ => keyword? "true" (.bool true) text
    | 'f' :: _ => keyword? "false" (.bool false) text
    | _ => readPlain? text

def readItems : Nat → Nat → List Json → List Char → Option (Json × List Char)
  | 0, _, _, _ => none
  | fuel + 1, depth, collected, text => do
    let (item, rest) ← readValue fuel depth text
    match skipBlankLines rest with
    | ',' :: rest =>
      match skipBlankLines rest with
      | ']' :: rest => some (.array (item :: collected).reverse, rest)
      | rest => readItems fuel depth (item :: collected) rest
    | ']' :: rest => some (.array (item :: collected).reverse, rest)
    | _ => none

def readPairs : Nat → Nat → Table → List Char → Option (Json × List Char)
  | 0, _, _, _ => none
  | fuel + 1, depth, table, text => do
    let (keys, rest) ← readKey? text
    match skipSpaces rest with
    | '=' :: rest => do
      let (value, rest) ← readValue fuel depth (skipSpaces rest)
      let table ← table.assign keys value
      match skipSpaces rest with
      | ',' :: rest => readPairs fuel depth table rest
      | '}' :: rest => some (table.json, rest)
      | _ => none
    | _ => none
end

def readPair? (text : List Char) : Option ((List String × Json) × List Char) := do
  let (keys, rest) ← readKey? text
  match skipSpaces rest with
  | '=' :: rest => do
    let (value, rest) ← readValue (2 * text.length + 2) 0 (skipSpaces rest)
    return ((keys, value), rest)
  | _ => none

def readHeader? : List Char → Option (Header × List Char)
  | '[' :: '[' :: rest => do
    let (keys, rest) ← readKey? rest
    match skipSpaces rest with
    | ']' :: ']' :: rest => return (⟨keys, true⟩, rest)
    | _ => none
  | '[' :: rest => do
    let (keys, rest) ← readKey? rest
    match skipSpaces rest with
    | ']' :: rest => return (⟨keys, false⟩, rest)
    | _ => none
  | _ => none

def readLines : Nat → Document → List Char → Option Document
  | 0, _, _ => none
  | fuel + 1, document, text =>
    match skipSpaces text with
    | [] => some document
    | '#' :: rest => do readLines fuel document (← lineTail? ('#' :: rest))
    | '[' :: rest => do
      let (header, rest) ← readHeader? ('[' :: rest)
      let rest ← lineTail? rest
      readLines fuel (← document.start header) rest
    | rest =>
      match lineEnd? rest with
      | some rest => readLines fuel document rest
      | none => do
        let ((keys, value), rest) ← readPair? rest
        let rest ← lineTail? rest
        readLines fuel (← document.assign keys value) rest

/-- A mark of the byte order may stand at the front. -/
def dropMark : List Char → List Char
  | c :: rest => if c = '\ufeff' then rest else c :: rest
  | [] => []

def ofText? (text : String) : Option Json := do
  let characters := dropMark text.toList
  let document ← readLines (characters.length + 1) {} characters
  return (← document.finished?).json

end LiveViews.Toml
