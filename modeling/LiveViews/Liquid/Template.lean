import LiveViews.Liquid.Filter.Apply

/-!
Compiled templates, and how their parts are written in error messages.
-/

namespace LiveViews.Liquid

inductive Comparison where
  | equal
  | notEqual
  | less
  | greater
  | lessEqual
  | greaterEqual
  | contains
  deriving DecidableEq

def Comparison.symbol : Comparison → String
  | .equal => "=="
  | .notEqual => "!="
  | .less => "<"
  | .greater => ">"
  | .lessEqual => "<="
  | .greaterEqual => ">="
  | .contains => "contains"

inductive Condition where
  | holds (operand : Operand)
  | compare (left : Operand) (comparison : Comparison) (right : Operand)
  | both (left right : Condition)
  | either (left right : Condition)

def Condition.source : Condition → String
  | .holds operand => operand.source
  | .compare left comparison right =>
    left.source ++ " " ++ comparison.symbol ++ " " ++ right.source
  | .both left right => left.source ++ " and " ++ right.source
  | .either left right => left.source ++ " or " ++ right.source

inductive LoopSource where
  | collection (operand : Operand)
  | range (first last : Operand)

def LoopSource.source : LoopSource → String
  | .collection operand => operand.source
  | .range first last => "(" ++ first.source ++ ".." ++ last.source ++ ")"

inductive Interrupt where
  | leave
  | next
  deriving DecidableEq

mutual
/-- A statement of a template. Widget directives are numbered within their template. -/
inductive Node where
  | text (content : String)
  | output (chain : FilterChain)
  | assign (name : String) (chain : FilterChain)
  | capture (name : String) (body : Block)
  | increment (name : String)
  | decrement (name : String)
  | cycle (group : String) (values : List Operand)
  | insert (fragment : Operand) (arguments : List (String × Operand))
  | widget (index : Nat) (name entity : String)
  | interrupt (kind : Interrupt)
  | branch (condition : Condition) (expected : Bool) (onTrue onFalse : Block)
  | select (target : Operand) (clauses : Clauses)
  | loop (binder : String) (source : LoopSource) (limit offset : Option Operand)
      (reversed : Bool) (body otherwise : Block)
  | table (binder : String) (source : LoopSource) (columns limit offset : Option Operand)
      (body : Block)
  | whenChanged (body : Block)

inductive Block where
  | done
  | step (first : Node) (rest : Block)

inductive Clauses where
  | otherwise (body : Block)
  | case (values : List Operand) (body : Block) (rest : Clauses)
end

def tagText (words : List String) : String :=
  " ".intercalate (["\x7b%"] ++ words ++ ["%\x7d"])

def attributeText (name : String) (operand : Option Operand) : List String :=
  (operand.map fun operand => name ++ ":" ++ operand.source).toList

def Node.tag : Node → String
  | .assign name chain => tagText ["assign", name, "=", chain.source]
  | .capture name _ => tagText ["capture", name]
  | .cycle _ values => tagText ["cycle", ", ".intercalate (values.map Operand.source)]
  | .insert fragment _ => tagText ["include", fragment.source]
  | .branch condition expected _ _ =>
    tagText [if expected then "if" else "unless", condition.source]
  | .select target _ => tagText ["case", target.source]
  | .loop binder source limit offset reversed _ _ =>
    tagText (["for", binder, "in", source.source] ++ attributeText "limit" limit
      ++ attributeText "offset" offset ++ if reversed then ["reversed"] else [])
  | .table binder source columns limit offset _ =>
    tagText (["tablerow", binder, "in", source.source] ++ attributeText "cols" columns
      ++ attributeText "limit" limit ++ attributeText "offset" offset)
  | .whenChanged _ => tagText ["ifchanged"]
  | .text _ | .output _ | .increment _ | .decrement _ | .widget _ _ _ | .interrupt _ => ""

def elseTag : String := tagText ["else"]

def clauseTag (values : List Operand) : String :=
  tagText ["when", " or ".intercalate (values.map Operand.source)]

structure Template where
  body : Block

end LiveViews.Liquid
