import LiveViews.Proofs.Liquid.Reading
import LiveViews.Proofs.Render.RangeSearch

/-!
Literal ranges. What the engine reads as a range of two whole numbers is found by the search for
oversized ranges, so that a text that passes the check compiles to a template without an oversized
range (`bounded_of_parseView`).
-/

namespace LiveViews

namespace Liquid

open LiveViews.Text

theorem isBlank_of_isSpace {c : Char} (space : Cursor.isSpace c = true) : isBlank c = true := by
  simp only [Cursor.isSpace, Bool.or_eq_true, decide_eq_true_eq] at space
  rcases space with (rfl | rfl) | rfl <;> decide

theorem rest_skipSpaces (cursor : Cursor) :
    ∃ spaces, (∀ c ∈ spaces, Cursor.isSpace c = true) ∧
      cursor.rest = spaces ++ cursor.skipSpaces.rest := by
  refine ⟨cursor.rest.takeWhile Cursor.isSpace, fun c member => List.mem_takeWhile_imp member, ?_⟩
  rw [Cursor.skipSpaces, Cursor.advance]
  exact (List.prefix_iff_eq_append.mp (List.takeWhile_prefix _)).symm

theorem readQuoted?_ne_int {quote : Char} {cursor later : Cursor} {number : Int} :
    readQuoted? quote cursor ≠ some (.int number, later) := by
  intro found
  unfold readQuoted? at found
  split at found
  · cases found
  · dsimp only at found
    split at found <;> cases found

theorem readKeyword?_ne_int {words : List (String × Value)} {cursor later : Cursor} {number : Int}
    (absent : .int number ∉ words.map Prod.snd) :
    readKeyword? words cursor ≠ some (.int number, later) := by
  intro found
  obtain ⟨⟨word, member, same⟩, _⟩ := readKeyword?_eq_some found
  rw [← same] at absent
  exact absent (List.mem_map_of_mem member)

theorem orElse_of_ne {α : Type} {first second : Option α} {part : α}
    (found : (first <|> second) = some part) (other : first ≠ some part) : second = some part := by
  cases first with
  | none => exact found
  | some read => exact absurd found other

theorem readLiteral?_int {cursor later : Cursor} {number : Int}
    (found : readLiteral? cursor = some (.int number, later)) :
    readNumber? cursor = some (.int number, later) := by
  have unquoted := orElse_of_ne (orElse_of_ne (orElse_of_ne found
    (readKeyword?_ne_int (by simp [keywords]))) readQuoted?_ne_int) readQuoted?_ne_int
  cases read : readNumber? cursor with
  | some part =>
      rw [read] at unquoted
      exact unquoted
  | none =>
      rw [read] at unquoted
      exact absurd unquoted (readKeyword?_ne_int (by simp))

theorem readOperand_int {cursor later : Cursor} {number : Int}
    (found : readOperand cursor = some (.literal (.int number), later)) :
    ∃ numeral, readInteger? numeral = some number ∧ cursor.rest = numeral ++ later.rest := by
  unfold readOperand readOperand? at found
  dsimp only at found
  split at found
  next value rest literal =>
    obtain ⟨rfl, rfl⟩ : value = .int number ∧ rest = later := by simpa using found
    obtain ⟨size, rfl, read⟩ := readNumber?_eq_some (readLiteral?_int literal)
    exact ⟨_, read number rfl, (List.take_append_drop size _).symm⟩
  next =>
    obtain ⟨named, _, same⟩ := Option.bind_eq_some_iff.mp found
    cases same

theorem readBound {cursor later : Cursor} {number : Int}
    (found : readOperand cursor.skipSpaces = some (.literal (.int number), later))
    (fits : fitsI64 number = true) :
    ∃ piece, cursor.rest = piece ++ later.skipSpaces.rest ∧ BoundText piece number := by
  obtain ⟨numeral, read, text⟩ := readOperand_int found
  obtain ⟨before, spacesBefore, begins⟩ := rest_skipSpaces cursor
  obtain ⟨after, spacesAfter, ends⟩ := rest_skipSpaces later
  refine ⟨before ++ numeral ++ after, ?_, ?_⟩
  · rw [begins, text, ends, List.append_assoc, List.append_assoc]
  · exact .intro (fun c member => isBlank_of_isSpace (spacesBefore c member))
      (readInteger?_eq_some.mp read) fits fun c member => isBlank_of_isSpace (spacesAfter c member)

theorem openedBounds?_of_readRange? {cursor later : Cursor} {first last : Int}
    (found : readRange? cursor =
      some (.range (.literal (.int first)) (.literal (.int last)), later))
    (firstFits : fitsI64 first = true) (lastFits : fitsI64 last = true) :
    ∃ text, cursor.rest = '(' :: text ∧ openedBounds? text = some (first, last) := by
  obtain ⟨opened, bracket, found⟩ := Option.bind_eq_some_iff.mp found
  obtain ⟨⟨firstOperand, begun⟩, begins, found⟩ := Option.bind_eq_some_iff.mp found
  obtain ⟨between, dots, found⟩ := Option.bind_eq_some_iff.mp found
  obtain ⟨⟨lastOperand, ended⟩, ends, found⟩ := Option.bind_eq_some_iff.mp found
  obtain ⟨closed, closing, same⟩ := Option.bind_eq_some_iff.mp found
  cases same
  obtain ⟨left, leftText, leftBound⟩ := readBound begins firstFits
  obtain ⟨right, rightText, rightBound⟩ := readBound ends lastFits
  refine ⟨opened.rest, Cursor.rest_after? bracket, openedBounds?_eq_some.mpr
    ⟨_, later.rest, .intro leftBound rightBound, ?_⟩⟩
  rw [leftText, Cursor.rest_after? dots, rightText, Cursor.rest_after? closing]
  simp

end Liquid

theorem oversizedRange?_of_suffix {limit : Nat} {source text : List Char} {bounds : Int × Int}
    (suffix : '(' :: text <:+ source) (opened : openedBounds? text = some bounds)
    (oversized : exceeds limit bounds = true) : oversizedRange? limit source ≠ none := by
  obtain ⟨before, rfl⟩ := suffix
  obtain ⟨literal, after, range, whole⟩ := openedBounds?_eq_some.mp opened
  rw [exceeds, decide_eq_true_eq] at oversized
  intro nothing
  refine oversizedRange?_eq_none.mp nothing before.length bounds ⟨literal, after, ?_, range, oversized⟩
  rw [List.drop_left]
  exact whole

namespace Liquid

open LiveViews.Text

def LoopSource.bounded (limit : Nat) : LoopSource → Bool
  | .range (.literal (.int first)) (.literal (.int last)) => !exceeds limit (first, last)
  | _ => true

theorem LoopSource.bounded_of {limit : Nat} {source : LoopSource}
    (small : ∀ first last, source = .range (.literal (.int first)) (.literal (.int last)) →
      exceeds limit (first, last) = false) : source.bounded limit = true := by
  unfold bounded
  split
  next first last =>
    rw [small first last rfl]
    rfl
  next => rfl

mutual
/-- No loop goes over a range that is written out in whole numbers and has more than `limit` items. -/
def Node.bounded (limit : Nat) : Node → Bool
  | .capture _ body | .whenChanged body => body.bounded limit
  | .branch _ _ onTrue onFalse => onTrue.bounded limit && onFalse.bounded limit
  | .select _ clauses => clauses.bounded limit
  | .loop _ source _ _ _ body otherwise =>
    source.bounded limit && body.bounded limit && otherwise.bounded limit
  | .table _ source _ _ _ body => source.bounded limit && body.bounded limit
  | .text _ | .output _ | .assign _ _ | .increment _ | .decrement _ | .cycle _ _ | .insert _ _
  | .widget _ _ _ | .interrupt _ => true

def Block.bounded (limit : Nat) : Block → Bool
  | .done => true
  | .step first rest => first.bounded limit && rest.bounded limit

def Clauses.bounded (limit : Nat) : Clauses → Bool
  | .otherwise body => body.bounded limit
  | .case _ body rest => body.bounded limit && rest.bounded limit
end

def Token.Bounded (limit : Nat) (token : Token) : Prop :=
  ∀ first last, token.kind = .range (.literal (.int first)) (.literal (.int last)) →
    fitsI64 first = true → fitsI64 last = true → exceeds limit (first, last) = false

theorem bounded_of_mem_elements {limit : Nat} {source : List Char}
    (checked : oversizedRange? limit source = none) {element : Element}
    (member : element ∈ elements source) {tag : Tag} (kind : element.kind = .tag tag) :
    ∀ token ∈ tag.tokens, token.Bounded limit := by
  intro token inside first last range firstFits lastFits
  obtain ⟨start, later, suffix, read⟩ := mem_elements member kind inside
  obtain ⟨text, here, opened⟩ := openedBounds?_of_readRange? (readRange?_of_readToken? read range)
    firstFits lastFits
  rw [here] at suffix
  rw [← Bool.not_eq_true]
  intro oversized
  exact oversizedRange?_of_suffix suffix opened oversized checked

namespace Reading

variable {α β : Type}

theorem bind_ok {first : Reading α} {next : α → Reading β} {arguments : Arguments}
    {result : β × Arguments} (read : (first >>= next).run arguments = .ok result) :
    ∃ value later, first.run arguments = .ok (value, later) ∧ (next value).run later = .ok result := by
  rw [StateT.run_bind] at read
  cases begun : first.run arguments with
  | error fault =>
      rw [begun] at read
      cases read
  | ok part =>
      rw [begun] at read
      exact ⟨part.1, part.2, rfl, read⟩

theorem next_ok {complaint : String} {arguments later : Arguments} {token : Token}
    (read : (next complaint).run arguments = .ok (token, later)) :
    arguments.tokens = token :: later.tokens := by
  obtain ⟨tokens, stop⟩ := arguments
  cases tokens with
  | nil => cases read
  | cons first rest =>
      cases read
      rfl

theorem name_ok {complaint name : String} {arguments later : Arguments}
    (read : (Reading.name complaint).run arguments = .ok (name, later)) :
    ∃ token, arguments.tokens = token :: later.tokens := by
  obtain ⟨token, between, begun, named⟩ := bind_ok read
  refine ⟨token, (next_ok begun).trans ?_⟩
  unfold nameOf at named
  split at named <;> cases named
  rfl

theorem word_ok {word complaint : String} {arguments later : Arguments} {value : Unit}
    (read : (Reading.word word complaint).run arguments = .ok (value, later)) :
    ∃ token, arguments.tokens = token :: later.tokens := by
  obtain ⟨token, between, begun, same⟩ := bind_ok read
  refine ⟨token, (next_ok begun).trans ?_⟩
  unfold exactly at same
  split at same <;> cases same
  rfl

theorem checked_ok {operand taken : Operand} {arguments later : Arguments}
    (read : (checked operand).run arguments = .ok (taken, later)) :
    taken = operand ∧ operand.fits = true := by
  unfold checked at read
  split at read
  next fits =>
    cases read
    exact ⟨rfl, fits⟩
  next => cases read

theorem loopSource_ok {arguments later : Arguments} {source : LoopSource}
    (read : loopSource.run arguments = .ok (source, later)) :
    ∃ token ∈ arguments.tokens, ∀ first last, source = .range first last →
      token.kind = .range first last ∧ first.fits = true ∧ last.fits = true := by
  obtain ⟨token, between, begun, read⟩ := bind_ok read
  refine ⟨token, next_ok begun ▸ List.mem_cons_self, ?_⟩
  split at read
  next first last kind =>
    obtain ⟨_, _, firstTaken, behind⟩ := bind_ok read
    obtain ⟨_, _, lastTaken, returned⟩ := bind_ok behind
    cases returned
    obtain ⟨rfl, firstFits⟩ := checked_ok firstTaken
    obtain ⟨rfl, lastFits⟩ := checked_ok lastTaken
    rintro _ _ ⟨⟩
    exact ⟨kind, firstFits, lastFits⟩
  next =>
    obtain ⟨operand, _, _, read⟩ := bind_ok read
    cases read
    rintro _ _ ⟨⟩

theorem loopHead_ok {limit : Nat} {columns : Bool} {arguments later : Arguments}
    {head : String × LoopSource × LoopAttributes}
    (read : (loopHead columns).run arguments = .ok (head, later))
    (bounded : ∀ token ∈ arguments.tokens, token.Bounded limit) :
    head.2.1.bounded limit = true := by
  obtain ⟨binder, afterName, named, read⟩ := bind_ok read
  obtain ⟨_, afterWord, worded, read⟩ := bind_ok read
  obtain ⟨source, afterSource, sourced, read⟩ := bind_ok read
  obtain ⟨_, _, _, read⟩ := bind_ok read
  obtain ⟨_, _, _, read⟩ := bind_ok read
  cases read
  obtain ⟨_, afterBinder⟩ := name_ok named
  obtain ⟨_, afterIn⟩ := word_ok worded
  obtain ⟨token, member, range⟩ := loopSource_ok sourced
  have tokenBounded : token.Bounded limit := by
    refine bounded token ?_
    rw [afterBinder, afterIn]
    exact List.mem_cons_of_mem _ (List.mem_cons_of_mem _ member)
  refine LoopSource.bounded_of fun first last same => ?_
  obtain ⟨kind, firstFits, lastFits⟩ := range _ _ same
  exact tokenBounded first last kind firstFits lastFits

end Reading

end Liquid

end LiveViews
