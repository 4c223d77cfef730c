import LiveViews.Json.Reader

/-!
Reading an object of which only some members are wanted. The values of the others are passed over:
they have to be well formed, but their numbers and escapes may stand for nothing, and they may nest
at any depth.
-/

namespace LiveViews.Json

open LiveViews.Text

def passString? : List Char → Option (List Char)
  | '"' :: rest => some rest
  | '\\' :: 'u' :: a :: b :: c :: d :: rest =>
    if [a, b, c, d].all fun digit => (hexValue? digit).isSome then passString? rest else none
  | '\\' :: c :: rest => if (simpleEscape? c).isSome then passString? rest else none
  | c :: rest => if c = '\\' ∨ c.toNat < 0x20 then none else passString? rest
  | [] => none

def passWord? (word : String) (text : List Char) : Option (List Char) :=
  (keyword? word .null text).map Prod.snd

def passScalar? (text : List Char) : Option (List Char) :=
  passWord? "null" text <|> passWord? "true" text <|> passWord? "false" text
    <|> (readNumberText? text).map Prod.snd

mutual
def passValue : Nat → List Char → Option (List Char)
  | 0, _ => none
  | fuel + 1, text =>
    match skipBlanks text with
    | '"' :: rest => passString? rest
    | '[' :: rest =>
      match skipBlanks rest with
      | ']' :: rest => some rest
      | rest => passItems fuel rest
    | '{' :: rest =>
      match skipBlanks rest with
      | '}' :: rest => some rest
      | rest => passMembers fuel rest
    | rest => passScalar? rest

def passItems : Nat → List Char → Option (List Char)
  | 0, _ => none
  | fuel + 1, text => do
    let rest ← passValue fuel text
    match skipBlanks rest with
    | ',' :: rest => passItems fuel rest
    | ']' :: rest => some rest
    | _ => none

def passMembers : Nat → List Char → Option (List Char)
  | 0, _ => none
  | fuel + 1, text =>
    match skipBlanks text with
    | '"' :: rest => do
      let rest ← passString? rest
      match skipBlanks rest with
      | ':' :: rest => do
        let rest ← passValue fuel rest
        match skipBlanks rest with
        | ',' :: rest => passMembers fuel rest
        | '}' :: rest => some rest
        | _ => none
      | _ => none
    | _ => none
end

/-- The members from one member on; those without a wanted name are left out. -/
def readWanted (wanted : List String) :
    Nat → List (String × Json) → List Char → Option (Json × List Char)
  | 0, _, _ => none
  | fuel + 1, collected, text => do
    let (name, rest) ← readString? (skipBlanks text)
    match skipBlanks rest with
    | ':' :: rest => do
      let (collected, rest) ←
        if wanted.contains name then
          (readValue fuel 1 rest).map fun part => ((name, part.1) :: collected, part.2)
        else (passValue fuel rest).map fun rest => (collected, rest)
      match skipBlanks rest with
      | ',' :: rest => readWanted wanted fuel collected rest
      | '}' :: rest => some (.object collected.reverse, rest)
      | _ => none
    | _ => none

def wantedOfText? (wanted : List String) (text : String) : Option Json :=
  match skipBlanks text.toList with
  | '{' :: rest => do
    let (value, rest) ←
      match skipBlanks rest with
      | '}' :: rest => some (.object [], rest)
      | rest => readWanted wanted (2 * rest.length + 2) [] rest
    if (skipBlanks rest).isEmpty then some value else none
  | _ => ofText? text

end LiveViews.Json
