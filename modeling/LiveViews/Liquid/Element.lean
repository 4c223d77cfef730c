import LiveViews.Liquid.Token

/-!
The elements of a template text: plain text, outputs and tags.

Splitting never fails. A character at which no element starts becomes a stray element; whoever reads
the elements decides whether that matters. A hyphen at the inner side of a bracket takes the spaces
outside it along.
-/

namespace LiveViews.Liquid

structure Tag where
  name : String
  start : Nat
  stop : Nat
  tokens : List Token

inductive ElementKind where
  | text (content : String)
  | output (chain : Chain)
  | tag (tag : Tag)
  | stray

structure Element where
  kind : ElementKind
  source : List Char
  start : Nat

def opening? (bracket : String) (cursor : Cursor) : Option Cursor :=
  cursor.skipSpaces.after? (bracket ++ "-") <|> cursor.after? bracket

def closing? (bracket : String) (cursor : Cursor) : Option Cursor :=
  (cursor.after? ("-" ++ bracket)).map Cursor.skipSpaces <|> cursor.after? bracket

def outputOpening : String := "\x7b\x7b"
def outputClosing : String := "\x7d\x7d"
def tagOpening : String := "\x7b%"
def tagClosing : String := "%\x7d"

def readOutput? (cursor : Cursor) : Option (ElementKind × Cursor) := do
  let rest ← opening? outputOpening cursor
  let (chain, rest) ← readChain? rest.skipSpaces
  let rest ← closing? outputClosing rest.skipSpaces
  return (.output chain, rest)

def readTag? (cursor : Cursor) : Option (ElementKind × Cursor) := do
  let rest ← opening? tagOpening cursor
  let named := rest.skipSpaces
  let (name, rest) ← readName? named
  let stop := rest.offset
  let (tokens, rest) := readTokens (rest.rest.length + 1) rest
  let rest ← closing? tagClosing rest.skipSpaces
  return (.tag ⟨name, named.offset, stop, tokens⟩, rest)

/-- Whether an output or a tag opens here, perhaps after spaces that belong to it. -/
def opensHere (text : List Char) : Bool :=
  match text with
  | '{' :: '{' :: _ => true
  | '{' :: '%' :: _ => true
  | c :: _ =>
    Cursor.isSpace c &&
      match text.dropWhile Cursor.isSpace with
      | '{' :: '{' :: '-' :: _ => true
      | '{' :: '%' :: '-' :: _ => true
      | _ => false
  | [] => false

def plainText : List Char → List Char
  | [] => []
  | c :: rest => if opensHere (c :: rest) then [] else c :: plainText rest

def readElement (cursor : Cursor) : ElementKind × Cursor :=
  match readOutput? cursor <|> readTag? cursor with
  | some found => found
  | none =>
    match plainText cursor.rest with
    | [] => (.stray, cursor.advance 1)
    | content => (.text (String.ofList content), cursor.advance content.length)

def readElements : Nat → Cursor → List Element
  | 0, _ => []
  | fuel + 1, cursor =>
    if cursor.rest.isEmpty then []
    else
      let (kind, rest) := readElement cursor
      ⟨kind, cursor.rest.take (rest.offset - cursor.offset), cursor.offset⟩
        :: readElements fuel rest

def elements (source : List Char) : List Element :=
  readElements (source.length + 1) ⟨source, 0⟩

def isMalformed (source : List Char) : Bool :=
  (elements source).any fun element =>
    match element.kind with
    | .stray => true
    | _ => false

def takeExactly? : Nat → List Char → Option (List Char)
  | 0, _ => some []
  | _ + 1, [] => none
  | size + 1, c :: rest =>
    if c.utf8Size ≤ size + 1 then
      (takeExactly? (size + 1 - c.utf8Size) rest).map fun taken => c :: taken
    else none

def lastLine (text : List Char) : List Char :=
  (text.reverse.takeWhile fun c => c ≠ '\n').reverse

/-- Whether a text with a stray character is still malformed when it is read from the start of that
line. The characters of the line before it are counted, but taken as bytes. -/
def againMalformed (source : List Char) (start : Nat) : Bool :=
  let before := lastLine (source.take start)
  match takeExactly? before.length before with
  | some taken => isMalformed (taken ++ source.drop start)
  | none => false

/-- Line and column after `before`; a carriage return counts with the line feed behind it. -/
def positionAfter (line column : Nat) : List Char → Position
  | [] => ⟨line, column⟩
  | '\r' :: '\n' :: rest => positionAfter (line + 1) 1 rest
  | '\n' :: rest => positionAfter (line + 1) 1 rest
  | _ :: rest => positionAfter line (column + 1) rest

def positionAt (source : List Char) (offset : Nat) : Position :=
  positionAfter 1 1 (source.take offset)

end LiveViews.Liquid
