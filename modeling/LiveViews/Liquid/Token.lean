import LiveViews.Decimal.Reading
import LiveViews.Liquid.Variable
import LiveViews.Text.Blank

/-!
Tokens of the template language: names, literals, variables, filter chains, ranges and symbols.

Choices are ordered: the first alternative that reads counts, even if a later one would read more.
Every token but a symbol or a range takes the spaces behind it along, so that its end is the place
where the next token starts.
-/

namespace LiveViews.Liquid

/-- What is left of a text, and how many characters stand before it. -/
structure Cursor where
  rest : List Char
  offset : Nat

namespace Cursor

def advance (cursor : Cursor) (count : Nat) : Cursor :=
  ⟨cursor.rest.drop count, cursor.offset + count⟩

def isSpace (c : Char) : Bool :=
  c = ' ' || c = '\n' || c = '\r'

def skipSpaces (cursor : Cursor) : Cursor :=
  cursor.advance (cursor.rest.takeWhile isSpace).length

def textTo (cursor later : Cursor) : String :=
  String.ofList (cursor.rest.take (later.offset - cursor.offset))

def after? (word : String) (cursor : Cursor) : Option Cursor :=
  if word.toList.isPrefixOf cursor.rest then some (cursor.advance word.length) else none

end Cursor

/-- A hyphen is part of a name unless it belongs to the end of a tag or an output. -/
def hyphenInName : List Char → Bool
  | '}' :: '}' :: _ => false
  | '%' :: '}' :: _ => false
  | _ => true

def nameTail : List Char → List Char
  | [] => []
  | c :: rest =>
    if c.isAlphanum || c = '_' || (c = '-' && hyphenInName rest) then c :: nameTail rest else []

def readName? (cursor : Cursor) : Option (String × Cursor) :=
  match cursor.rest with
  | [] => none
  | c :: rest =>
    if c.isAlpha || c = '_' || (c = '-' && hyphenInName rest) then
      let name := c :: nameTail rest
      some (String.ofList name, cursor.advance name.length)
    else none

def readQuoted? (quote : Char) (cursor : Cursor) : Option (Value × Cursor) :=
  match cursor.rest with
  | [] => none
  | c :: rest =>
    let content := rest.takeWhile (· ≠ quote)
    if c = quote ∧ content.length < rest.length then
      some (.text (String.ofList content), cursor.advance (content.length + 2))
    else none

def readNumber? (cursor : Cursor) : Option (Value × Cursor) :=
  let sign := cursor.rest.takeWhile fun c => c = '+' || c = '-'
  if sign.length > 1 then none
  else
    let unsigned := cursor.rest.drop sign.length
    let whole := unsigned.takeWhile Text.isDigit
    let size := sign.length + whole.length
    let fraction :=
      match unsigned.drop whole.length with
      | '.' :: rest => rest.takeWhile Text.isDigit
      | _ => []
    if whole.isEmpty then none
    else if fraction.isEmpty then
      (Text.readInteger? (cursor.rest.take size)).map fun value =>
        (.int value, cursor.advance size)
    else
      (Decimal.readFloat? (cursor.rest.take (size + 1 + fraction.length))).map fun value =>
        (.float value, cursor.advance (size + 1 + fraction.length))

def keywords : List (String × Value) :=
  [("nil", .nil), ("null", .nil), ("empty", .state .empty), ("blank", .state .blank)]

def readKeyword? (words : List (String × Value)) (cursor : Cursor) : Option (Value × Cursor) :=
  words.findSome? fun word => (cursor.after? word.1).map fun rest => (word.2, rest)

def readLiteral? (cursor : Cursor) : Option (Value × Cursor) :=
  readKeyword? keywords cursor <|> readQuoted? '\'' cursor <|> readQuoted? '"' cursor
    <|> readNumber? cursor <|> readKeyword? [("true", .bool true), ("false", .bool false)] cursor

mutual
def readOperand? : Nat → Cursor → Option (Operand × Cursor)
  | 0, _ => none
  | fuel + 1, cursor =>
    match readLiteral? cursor with
    | some (value, rest) => some (.literal value, rest)
    | none => do
      let (name, rest) ← readName? cursor
      let (indexes, rest) := readIndexes fuel rest
      return (.variable name indexes, rest)

def readIndexes : Nat → Cursor → List Operand × Cursor
  | 0, cursor => ([], cursor)
  | fuel + 1, cursor =>
    match readIndex? fuel cursor with
    | some (index, rest) =>
      let (indexes, rest) := readIndexes fuel rest
      (index :: indexes, rest)
    | none => ([], cursor)

def readIndex? : Nat → Cursor → Option (Operand × Cursor)
  | 0, _ => none
  | fuel + 1, cursor =>
    match cursor.after? "." with
    | some rest => (readName? rest).map fun part => (.literal (.text part.1), part.2)
    | none => do
      let rest ← cursor.after? "["
      let (operand, rest) ← readOperand? fuel rest.skipSpaces
      let rest ← rest.skipSpaces.after? "]"
      return (operand, rest)
end

def readOperand (cursor : Cursor) : Option (Operand × Cursor) :=
  readOperand? (3 * cursor.rest.length + 3) cursor

structure FilterCall where
  name : String
  positional : List Operand
  named : List (String × Operand)
  written : String

structure Chain where
  entry : Operand
  calls : List FilterCall

inductive FilterArgument where
  | positional (value : Operand)
  | named (name : String) (value : Operand)

def readArgument? (cursor : Cursor) : Option (FilterArgument × Cursor) :=
  let named : Option (FilterArgument × Cursor) := do
    let (name, rest) ← readName? cursor
    let rest ← rest.skipSpaces.after? ":"
    let (value, rest) ← readOperand rest.skipSpaces
    return (.named name value, rest)
  named <|> (readOperand cursor).map fun part => (.positional part.1, part.2)

def readMoreArguments : Nat → Cursor → List FilterArgument × Cursor
  | 0, cursor => ([], cursor)
  | fuel + 1, cursor =>
    let start := cursor.skipSpaces
    match (start.after? ",").bind fun rest => readArgument? rest.skipSpaces with
    | some (argument, rest) =>
      let (arguments, rest) := readMoreArguments fuel rest
      (argument :: arguments, rest)
    | none => ([], start)

def FilterCall.ofArguments (name written : String) (arguments : List FilterArgument) :
    FilterCall where
  name := name
  written := written
  positional := arguments.filterMap fun
    | .positional value => some value
    | .named _ _ => none
  named := arguments.filterMap fun
    | .positional _ => none
    | .named name value => some (name, value)

def readFilter? (cursor : Cursor) : Option (FilterCall × Cursor) := do
  let (name, rest) ← readName? cursor
  let rest := rest.skipSpaces
  match (rest.after? ":").bind fun rest => readArgument? rest.skipSpaces with
  | some (argument, rest) =>
    let (arguments, rest) := readMoreArguments rest.rest.length rest
    return (.ofArguments name (cursor.textTo rest) (argument :: arguments), rest)
  | none => return (.ofArguments name (cursor.textTo rest) [], rest)

def readFilters : Nat → Cursor → List FilterCall × Cursor
  | 0, cursor => ([], cursor)
  | fuel + 1, cursor =>
    let start := cursor.skipSpaces
    match (start.after? "|").bind fun rest => readFilter? rest.skipSpaces with
    | some (call, rest) =>
      let (calls, rest) := readFilters fuel rest
      (call :: calls, rest)
    | none => ([], start)

def readChain? (cursor : Cursor) : Option (Chain × Cursor) := do
  let (entry, rest) ← readOperand cursor
  let (calls, rest) := readFilters (rest.rest.length + 1) rest
  return (⟨entry, calls⟩, rest)

inductive TokenKind where
  | chain (chain : Chain)
  | range (first last : Operand)
  | symbol

structure Token where
  kind : TokenKind
  text : String
  start : Nat
  stop : Nat

def readRange? (cursor : Cursor) : Option (TokenKind × Cursor) := do
  let rest ← cursor.after? "("
  let (first, rest) ← readOperand rest.skipSpaces
  let rest ← rest.skipSpaces.after? ".."
  let (last, rest) ← readOperand rest.skipSpaces
  let rest ← rest.skipSpaces.after? ")"
  return (.range first last, rest)

def symbols : List String :=
  ["==", "!=", "<>", ">=", "<=", ">", "<", "=", ",", ":"]

def readSymbol? (cursor : Cursor) : Option (TokenKind × Cursor) :=
  symbols.findSome? fun symbol => (cursor.after? symbol).map fun rest => (.symbol, rest)

def readToken? (cursor : Cursor) : Option (Token × Cursor) := do
  let (kind, rest) ←
    readRange? cursor <|> (readChain? cursor).map (fun part => (.chain part.1, part.2))
      <|> readSymbol? cursor
  let content := cursor.rest.take (rest.offset - cursor.offset)
  return (⟨kind, String.ofList (Text.trim content), cursor.offset, rest.offset⟩, rest)

def readTokens : Nat → Cursor → List Token × Cursor
  | 0, cursor => ([], cursor)
  | fuel + 1, cursor =>
    let start := cursor.skipSpaces
    match readToken? start with
    | some (token, rest) =>
      let (tokens, rest) := readTokens fuel rest
      (token :: tokens, rest)
    | none => ([], start)

end LiveViews.Liquid
