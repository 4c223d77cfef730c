import LiveViews.Json.Reader

/-!
The smallest pieces of a TOML text: blanks, line ends, comments, strings and keys. Each reader takes
the characters from one place on and gives what it read and the characters behind.
-/

namespace LiveViews.Toml

open LiveViews.Text

def isSpace (c : Char) : Bool :=
  c = ' ' || c = '\t'

def skipSpaces (text : List Char) : List Char :=
  text.dropWhile isSpace

def isPlain (c : Char) : Bool :=
  c = '\t' || (0x20 ≤ c.toNat && c.toNat ≠ 0x7F)

def lineEnd? : List Char → Option (List Char)
  | '\n' :: rest => some rest
  | '\r' :: '\n' :: rest => some rest
  | _ => none

def skipComment : List Char → List Char
  | '#' :: rest => rest.dropWhile isPlain
  | text => text

def lineTail? (text : List Char) : Option (List Char) :=
  match skipComment (skipSpaces text) with
  | [] => some []
  | rest => lineEnd? rest

def skipLines : Nat → List Char → List Char
  | 0, text => text
  | fuel + 1, text =>
    let rest := skipSpaces text
    match rest with
    | '#' :: _ =>
      match lineEnd? (skipComment rest) with
      | some rest => skipLines fuel rest
      | none => rest
    | _ =>
      match lineEnd? rest with
      | some rest => skipLines fuel rest
      | none => rest

def skipBlankLines (text : List Char) : List Char :=
  skipLines (text.length + 1) text

def readCodePoint? (count : Nat) (text : List Char) : Option (Char × List Char) := do
  let digits ← (text.take count).mapM hexValue?
  let code := digits.foldl (fun value digit => value * 16 + digit) 0
  if digits.length = count && code.isValidChar then
    return (Char.ofNat code, text.drop count)
  else none

def readEscape? : List Char → Option (Char × List Char)
  | 'b' :: rest => some ('\x08', rest)
  | 't' :: rest => some ('\t', rest)
  | 'n' :: rest => some ('\n', rest)
  | 'f' :: rest => some ('\x0c', rest)
  | 'r' :: rest => some ('\r', rest)
  | '"' :: rest => some ('"', rest)
  | '\\' :: rest => some ('\\', rest)
  | 'u' :: rest => readCodePoint? 4 rest
  | 'U' :: rest => readCodePoint? 8 rest
  | _ => none

def basicAfter : Nat → List Char → List Char → Option (List Char × List Char)
  | 0, _, _ => none
  | fuel + 1, collected, text =>
    match text with
    | '"' :: rest => some (collected.reverse, rest)
    | '\\' :: rest => do
      let (c, rest) ← readEscape? rest
      basicAfter fuel (c :: collected) rest
    | c :: rest => if isPlain c then basicAfter fuel (c :: collected) rest else none
    | [] => none

def skipBreaks : Nat → List Char → List Char
  | 0, text => text
  | fuel + 1, text =>
    let rest := skipSpaces text
    match lineEnd? rest with
    | some rest => skipBreaks fuel rest
    | none => rest

/-- The text behind a backslash that ends its line: all spaces and line ends are skipped. -/
def continuation? (text : List Char) : Option (List Char) :=
  (lineEnd? (skipSpaces text)).map fun rest => skipBreaks (rest.length + 1) rest

/-- The closing quotes of a string of several lines: up to two of them are its own. -/
def closing? (quote : Char) (text : List Char) : Option (List Char × List Char) :=
  let quotes := text.takeWhile fun c => c = quote
  if quotes.length < 3 then none
  else
    let own := min (quotes.length - 3) 2
    some (quotes.take own, text.drop (own + 3))

def multiBasicAfter : Nat → List Char → List Char → Option (List Char × List Char)
  | 0, _, _ => none
  | fuel + 1, collected, text =>
    match text with
    | '"' :: rest =>
      match closing? '"' text with
      | some (own, rest) => some (collected.reverse ++ own, rest)
      | none => multiBasicAfter fuel ('"' :: collected) rest
    | '\\' :: rest =>
      match continuation? rest with
      | some rest => multiBasicAfter fuel collected rest
      | none => do
        let (c, rest) ← readEscape? rest
        multiBasicAfter fuel (c :: collected) rest
    | c :: rest =>
      match lineEnd? text with
      | some rest => multiBasicAfter fuel ('\n' :: collected) rest
      | none => if isPlain c then multiBasicAfter fuel (c :: collected) rest else none
    | [] => none

def multiLiteralAfter : Nat → List Char → List Char → Option (List Char × List Char)
  | 0, _, _ => none
  | fuel + 1, collected, text =>
    match text with
    | '\'' :: rest =>
      match closing? '\'' text with
      | some (own, rest) => some (collected.reverse ++ own, rest)
      | none => multiLiteralAfter fuel ('\'' :: collected) rest
    | c :: rest =>
      match lineEnd? text with
      | some rest => multiLiteralAfter fuel ('\n' :: collected) rest
      | none => if isPlain c then multiLiteralAfter fuel (c :: collected) rest else none
    | [] => none

def literalAfter? (text : List Char) : Option (List Char × List Char) :=
  let content := text.takeWhile fun c => c ≠ '\'' && isPlain c
  match text.drop content.length with
  | '\'' :: rest => some (content, rest)
  | _ => none

/-- A string of several lines does not begin with the line end behind its quotes. -/
def dropLineEnd (text : List Char) : List Char :=
  (lineEnd? text).getD text

def readLineString? : List Char → Option (List Char × List Char)
  | '"' :: rest => basicAfter (rest.length + 1) [] rest
  | '\'' :: rest => literalAfter? rest
  | _ => none

def readString? : List Char → Option (List Char × List Char)
  | '"' :: '"' :: '"' :: rest =>
    let rest := dropLineEnd rest
    multiBasicAfter (rest.length + 1) [] rest
  | '\'' :: '\'' :: '\'' :: rest =>
    let rest := dropLineEnd rest
    multiLiteralAfter (rest.length + 1) [] rest
  | text => readLineString? text

def isBareKey (c : Char) : Bool :=
  c.isAlphanum || c = '_' || c = '-'

def readSimpleKey? (text : List Char) : Option (String × List Char) :=
  match text with
  | '"' :: _ | '\'' :: _ =>
    (readLineString? text).map fun (key, rest) => (String.ofList key, rest)
  | _ =>
    let key := text.takeWhile isBareKey
    if key.isEmpty then none else some (String.ofList key, text.drop key.length)

def readKeys : Nat → List Char → Option (List String × List Char)
  | 0, _ => none
  | fuel + 1, text => do
    let (key, rest) ← readSimpleKey? (skipSpaces text)
    match skipSpaces rest with
    | '.' :: rest => do
      let (keys, rest) ← readKeys fuel rest
      return (key :: keys, rest)
    | rest => return ([key], rest)

/-- How deep arrays, tables and keys may nest. -/
def deepest : Nat := 80

def readKey? (text : List Char) : Option (List String × List Char) :=
  (readKeys (text.length + 1) text).filter fun part => part.1.length < deepest

end LiveViews.Toml
