import LiveViews.Liquid.Element
import Mathlib.Data.List.Infix

/-!
What readers leave. Whatever a reader takes it takes from the front, so that what it leaves is an end
of the text, and a token of a tag was read where some end of the text begins (`mem_elements`).
-/

namespace LiveViews.Liquid

namespace Cursor

def Reaches (cursor later : Cursor) : Prop :=
  later.rest <:+ cursor.rest

theorem Reaches.refl (cursor : Cursor) : cursor.Reaches cursor :=
  List.suffix_refl _

theorem Reaches.trans {first second third : Cursor} (reaches : first.Reaches second)
    (further : second.Reaches third) : first.Reaches third :=
  List.IsSuffix.trans further reaches

theorem reaches_advance (cursor : Cursor) (count : Nat) : cursor.Reaches (cursor.advance count) :=
  List.drop_suffix _ _

theorem reaches_skipSpaces (cursor : Cursor) : cursor.Reaches cursor.skipSpaces :=
  cursor.reaches_advance _

theorem rest_after? {cursor later : Cursor} {word : String} (found : cursor.after? word = some later) :
    cursor.rest = word.toList ++ later.rest := by
  unfold after? at found
  split at found
  next begins =>
    obtain ⟨rest, same⟩ := List.isPrefixOf_iff_prefix.mp begins
    cases found
    rw [advance, ← same, ← String.length_toList, List.drop_left]
  next => cases found

theorem reaches_after? {cursor later : Cursor} {word : String}
    (found : cursor.after? word = some later) : cursor.Reaches later :=
  ⟨word.toList, (rest_after? found).symm⟩

end Cursor

def Forward {α : Type} (reader : Cursor → Option (α × Cursor)) : Prop :=
  ∀ ⦃cursor part later⦄, reader cursor = some (part, later) → cursor.Reaches later

theorem Forward.orElse {α : Type} {first second : Cursor → Option (α × Cursor)}
    (forward : Forward first) (otherwise : Forward second) :
    Forward fun cursor => first cursor <|> second cursor := by
  intro cursor part later found
  dsimp only at found
  cases here : first cursor with
  | none =>
      rw [here] at found
      exact otherwise found
  | some read =>
      rw [here] at found
      cases found
      exact forward here

theorem forward_readName? : Forward readName? := by
  intro cursor name later found
  unfold readName? at found
  split at found
  · cases found
  · split at found
    · cases found
      exact cursor.reaches_advance _
    · cases found

theorem forward_readQuoted? (quote : Char) : Forward (readQuoted? quote) := by
  intro cursor value later found
  unfold readQuoted? at found
  split at found
  · cases found
  · dsimp only at found
    split at found
    · cases found
      exact cursor.reaches_advance _
    · cases found

theorem readNumber?_eq_some {cursor later : Cursor} {value : Value}
    (found : readNumber? cursor = some (value, later)) : ∃ size, later = cursor.advance size ∧
      ∀ number, value = .int number → Text.readInteger? (cursor.rest.take size) = some number := by
  unfold readNumber? at found
  dsimp only at found
  split at found
  · cases found
  · split at found
    · cases found
    · split at found <;> split at found
      all_goals
        obtain ⟨number, read, same⟩ := Option.map_eq_some_iff.mp found
        cases same
        refine ⟨_, rfl, ?_⟩
        rintro _ ⟨⟩
      all_goals exact read

theorem forward_readNumber? : Forward readNumber? := by
  intro cursor value later found
  obtain ⟨size, same, _⟩ := readNumber?_eq_some found
  rw [same]
  exact cursor.reaches_advance size

theorem readKeyword?_eq_some {words : List (String × Value)} {cursor later : Cursor} {value : Value}
    (found : readKeyword? words cursor = some (value, later)) :
    (∃ word ∈ words, word.2 = value) ∧ cursor.Reaches later := by
  obtain ⟨word, member, here⟩ := List.exists_of_findSome?_eq_some found
  obtain ⟨rest, after, same⟩ := Option.map_eq_some_iff.mp here
  cases same
  exact ⟨⟨word, member, rfl⟩, Cursor.reaches_after? after⟩

theorem forward_readKeyword? (words : List (String × Value)) : Forward (readKeyword? words) :=
  fun _ _ _ found => (readKeyword?_eq_some found).2

theorem forward_readLiteral? : Forward readLiteral? :=
  (forward_readKeyword? _).orElse <| (forward_readQuoted? _).orElse <| (forward_readQuoted? _).orElse <|
    forward_readNumber?.orElse (forward_readKeyword? _)

mutual
theorem forward_readOperand? : (fuel : Nat) → Forward (readOperand? fuel)
  | 0 => fun _ _ _ found => nomatch found
  | fuel + 1 => by
      intro cursor operand later found
      unfold readOperand? at found
      split at found
      next literal =>
        cases found
        exact forward_readLiteral? literal
      next =>
        obtain ⟨named, name, rest⟩ := Option.bind_eq_some_iff.mp found
        cases rest
        exact (forward_readName? name).trans (reaches_readIndexes fuel _)

theorem reaches_readIndexes : (fuel : Nat) → (cursor : Cursor) →
    cursor.Reaches (readIndexes fuel cursor).2
  | 0, cursor => Cursor.Reaches.refl cursor
  | fuel + 1, cursor => by
      unfold readIndexes
      split
      next found => exact (forward_readIndex? fuel found).trans (reaches_readIndexes fuel _)
      next => exact Cursor.Reaches.refl cursor

theorem forward_readIndex? : (fuel : Nat) → Forward (readIndex? fuel)
  | 0 => fun _ _ _ found => nomatch found
  | fuel + 1 => by
      intro cursor operand later found
      unfold readIndex? at found
      split at found
      next dot =>
        obtain ⟨_, name, same⟩ := Option.map_eq_some_iff.mp found
        cases same
        exact (Cursor.reaches_after? dot).trans (forward_readName? name)
      next =>
        obtain ⟨opened, bracket, found⟩ := Option.bind_eq_some_iff.mp found
        obtain ⟨inside, operand, found⟩ := Option.bind_eq_some_iff.mp found
        obtain ⟨closed, closing, same⟩ := Option.bind_eq_some_iff.mp found
        cases same
        refine (Cursor.reaches_after? bracket).trans ?_
        refine (Cursor.reaches_skipSpaces _).trans ?_
        refine (forward_readOperand? fuel operand).trans ?_
        exact (Cursor.reaches_skipSpaces _).trans (Cursor.reaches_after? closing)
end

theorem forward_readOperand : Forward readOperand :=
  fun _ _ _ found => forward_readOperand? _ found

theorem forward_readArgument? : Forward readArgument? := by
  refine Forward.orElse ?_ ?_
  · intro cursor argument later found
    obtain ⟨named, name, found⟩ := Option.bind_eq_some_iff.mp found
    obtain ⟨behind, colon, found⟩ := Option.bind_eq_some_iff.mp found
    obtain ⟨value, operand, same⟩ := Option.bind_eq_some_iff.mp found
    cases same
    refine (forward_readName? name).trans ?_
    refine (Cursor.reaches_skipSpaces _).trans ((Cursor.reaches_after? colon).trans ?_)
    exact (Cursor.reaches_skipSpaces _).trans (forward_readOperand operand)
  · intro cursor argument later found
    obtain ⟨_, operand, same⟩ := Option.map_eq_some_iff.mp found
    cases same
    exact forward_readOperand operand

theorem reaches_behind {α : Type} {reader : Cursor → Option (α × Cursor)} (forward : Forward reader)
    {cursor later : Cursor} {symbol : String} {part : α}
    (found : ((cursor.after? symbol).bind fun rest => reader rest.skipSpaces) = some (part, later)) :
    cursor.Reaches later := by
  obtain ⟨behind, symbol, found⟩ := Option.bind_eq_some_iff.mp found
  exact (Cursor.reaches_after? symbol).trans ((Cursor.reaches_skipSpaces _).trans (forward found))

theorem reaches_readMoreArguments (fuel : Nat) (cursor : Cursor) :
    cursor.Reaches (readMoreArguments fuel cursor).2 := by
  induction fuel generalizing cursor with
  | zero => exact Cursor.Reaches.refl cursor
  | succ fuel ih =>
      unfold readMoreArguments
      dsimp only
      refine (Cursor.reaches_skipSpaces cursor).trans ?_
      split
      next found => exact (reaches_behind forward_readArgument? found).trans (ih _)
      next => exact Cursor.Reaches.refl _

theorem forward_readFilter? : Forward readFilter? := by
  intro cursor call later found
  obtain ⟨named, name, found⟩ := Option.bind_eq_some_iff.mp found
  refine (forward_readName? name).trans ((Cursor.reaches_skipSpaces _).trans ?_)
  dsimp only at found
  split at found
  next argument =>
    cases found
    exact (reaches_behind forward_readArgument? argument).trans (reaches_readMoreArguments _ _)
  next =>
    cases found
    exact Cursor.Reaches.refl _

theorem reaches_readFilters (fuel : Nat) (cursor : Cursor) :
    cursor.Reaches (readFilters fuel cursor).2 := by
  induction fuel generalizing cursor with
  | zero => exact Cursor.Reaches.refl cursor
  | succ fuel ih =>
      unfold readFilters
      dsimp only
      refine (Cursor.reaches_skipSpaces cursor).trans ?_
      split
      next found => exact (reaches_behind forward_readFilter? found).trans (ih _)
      next => exact Cursor.Reaches.refl _

theorem forward_readChain? : Forward readChain? := by
  intro cursor chain later found
  obtain ⟨entry, operand, same⟩ := Option.bind_eq_some_iff.mp found
  cases same
  exact (forward_readOperand operand).trans (reaches_readFilters (entry.2.rest.length + 1) entry.2)

theorem forward_readRange? : Forward readRange? := by
  intro cursor kind later found
  obtain ⟨opened, bracket, found⟩ := Option.bind_eq_some_iff.mp found
  obtain ⟨first, begins, found⟩ := Option.bind_eq_some_iff.mp found
  obtain ⟨behind, dots, found⟩ := Option.bind_eq_some_iff.mp found
  obtain ⟨last, ends, found⟩ := Option.bind_eq_some_iff.mp found
  obtain ⟨closed, closing, same⟩ := Option.bind_eq_some_iff.mp found
  cases same
  refine (Cursor.reaches_after? bracket).trans ((Cursor.reaches_skipSpaces _).trans ?_)
  refine (forward_readOperand begins).trans ((Cursor.reaches_skipSpaces _).trans ?_)
  refine (Cursor.reaches_after? dots).trans ((Cursor.reaches_skipSpaces _).trans ?_)
  refine (forward_readOperand ends).trans ((Cursor.reaches_skipSpaces _).trans ?_)
  exact Cursor.reaches_after? closing

theorem forward_readSymbol? : Forward readSymbol? := by
  intro cursor kind later found
  obtain ⟨symbol, _, here⟩ := List.exists_of_findSome?_eq_some found
  obtain ⟨rest, after, same⟩ := Option.map_eq_some_iff.mp here
  cases same
  exact Cursor.reaches_after? after

theorem forward_readKind? : Forward fun cursor =>
    readRange? cursor <|> (readChain? cursor).map (fun part => (TokenKind.chain part.1, part.2))
      <|> readSymbol? cursor := by
  refine forward_readRange?.orElse (Forward.orElse ?_ forward_readSymbol?)
  intro cursor kind later found
  obtain ⟨_, chain, same⟩ := Option.map_eq_some_iff.mp found
  cases same
  exact forward_readChain? chain

theorem forward_readToken? : Forward readToken? := by
  intro cursor token later found
  obtain ⟨kind, read, same⟩ := Option.bind_eq_some_iff.mp found
  cases same
  exact forward_readKind? read

theorem readRange?_of_readToken? {cursor later : Cursor} {token : Token} {first last : Operand}
    (found : readToken? cursor = some (token, later)) (range : token.kind = .range first last) :
    readRange? cursor = some (.range first last, later) := by
  obtain ⟨⟨kind, rest⟩, read, same⟩ := Option.bind_eq_some_iff.mp found
  cases same
  dsimp only at range
  subst range
  cases ranged : readRange? cursor with
  | some answer =>
      rw [ranged] at read
      exact read
  | none =>
      rw [ranged] at read
      cases chained : readChain? cursor with
      | some answer =>
          rw [chained] at read
          cases read
      | none =>
          rw [chained] at read
          obtain ⟨_, _, here⟩ := List.exists_of_findSome?_eq_some read
          obtain ⟨_, _, same⟩ := Option.map_eq_some_iff.mp here
          cases same

theorem reaches_readTokens (fuel : Nat) (cursor : Cursor) :
    cursor.Reaches (readTokens fuel cursor).2 := by
  induction fuel generalizing cursor with
  | zero => exact Cursor.Reaches.refl cursor
  | succ fuel ih =>
      unfold readTokens
      dsimp only
      refine (Cursor.reaches_skipSpaces cursor).trans ?_
      split
      next found => exact (forward_readToken? found).trans (ih _)
      next => exact Cursor.Reaches.refl _

theorem mem_readTokens {fuel : Nat} {cursor : Cursor} {token : Token}
    (member : token ∈ (readTokens fuel cursor).1) :
    ∃ start later, cursor.Reaches start ∧ readToken? start = some (token, later) := by
  induction fuel generalizing cursor with
  | zero => cases member
  | succ fuel ih =>
      have spaces := Cursor.reaches_skipSpaces cursor
      unfold readTokens at member
      dsimp only at member
      split at member
      next first rest found =>
        rcases List.mem_cons.mp member with rfl | further
        · exact ⟨cursor.skipSpaces, rest, spaces, found⟩
        · obtain ⟨start, later, reaches, read⟩ := ih further
          exact ⟨start, later, spaces.trans ((forward_readToken? found).trans reaches), read⟩
      next => cases member

theorem reaches_opening? {bracket : String} {cursor later : Cursor}
    (found : opening? bracket cursor = some later) : cursor.Reaches later := by
  unfold opening? at found
  cases trimmed : cursor.skipSpaces.after? (bracket ++ "-") with
  | some rest =>
      rw [trimmed] at found
      cases found
      exact (Cursor.reaches_skipSpaces _).trans (Cursor.reaches_after? trimmed)
  | none =>
      rw [trimmed] at found
      exact Cursor.reaches_after? found

theorem reaches_closing? {bracket : String} {cursor later : Cursor}
    (found : closing? bracket cursor = some later) : cursor.Reaches later := by
  unfold closing? at found
  cases trimmed : cursor.after? ("-" ++ bracket) with
  | some rest =>
      rw [trimmed] at found
      cases found
      exact (Cursor.reaches_after? trimmed).trans (Cursor.reaches_skipSpaces _)
  | none =>
      rw [trimmed] at found
      exact Cursor.reaches_after? found

theorem readOutput?_eq_some {cursor later : Cursor} {kind : ElementKind}
    (found : readOutput? cursor = some (kind, later)) :
    cursor.Reaches later ∧ ∃ chain, kind = .output chain := by
  obtain ⟨opened, opening, found⟩ := Option.bind_eq_some_iff.mp found
  obtain ⟨read, chain, found⟩ := Option.bind_eq_some_iff.mp found
  obtain ⟨closed, closing, same⟩ := Option.bind_eq_some_iff.mp found
  cases same
  refine ⟨?_, _, rfl⟩
  refine (reaches_opening? opening).trans ((Cursor.reaches_skipSpaces _).trans ?_)
  refine (forward_readChain? chain).trans ((Cursor.reaches_skipSpaces _).trans ?_)
  exact reaches_closing? closing

/-- The tokens of a tag were read in the text that the cursor has before it. -/
def Cursor.Tells (cursor : Cursor) (kind : ElementKind) : Prop :=
  ∀ tag, kind = .tag tag → ∀ token ∈ tag.tokens,
    ∃ start later, cursor.Reaches start ∧ readToken? start = some (token, later)

theorem Cursor.Tells.before {cursor later : Cursor} {kind : ElementKind} (tells : later.Tells kind)
    (reaches : cursor.Reaches later) : cursor.Tells kind := by
  intro tag same token member
  obtain ⟨start, rest, further, read⟩ := tells tag same token member
  exact ⟨start, rest, reaches.trans further, read⟩

theorem readTag?_eq_some {cursor later : Cursor} {kind : ElementKind}
    (found : readTag? cursor = some (kind, later)) : cursor.Reaches later ∧ cursor.Tells kind := by
  obtain ⟨opened, opening, found⟩ := Option.bind_eq_some_iff.mp found
  obtain ⟨⟨_, named⟩, name, found⟩ := Option.bind_eq_some_iff.mp found
  have begun := (reaches_opening? opening).trans
    ((Cursor.reaches_skipSpaces _).trans (forward_readName? name))
  have reaches := reaches_readTokens (named.rest.length + 1) named
  have members : ∀ token ∈ (readTokens (named.rest.length + 1) named).1, _ :=
    fun _ member => mem_readTokens member
  dsimp only at found
  revert found reaches members
  generalize readTokens (named.rest.length + 1) named = read
  obtain ⟨tokens, behind⟩ := read
  intro found reaches members
  obtain ⟨closed, closing, same⟩ := Option.bind_eq_some_iff.mp found
  cases same
  refine ⟨?_, ?_⟩
  · refine begun.trans (reaches.trans ?_)
    exact (Cursor.reaches_skipSpaces _).trans (reaches_closing? closing)
  · rintro _ ⟨⟩ token member
    obtain ⟨start, rest, further, read⟩ := members token member
    exact ⟨start, rest, begun.trans further, read⟩

theorem readElement_tells (cursor : Cursor) :
    cursor.Reaches (readElement cursor).2 ∧ cursor.Tells (readElement cursor).1 := by
  unfold readElement
  cases shown : readOutput? cursor with
  | some output =>
      obtain ⟨kind, later⟩ := output
      obtain ⟨reaches, chain, rfl⟩ := readOutput?_eq_some shown
      exact ⟨reaches, fun _ same => nomatch same⟩
  | none =>
      cases tagged : readTag? cursor with
      | some tag =>
          obtain ⟨kind, later⟩ := tag
          exact readTag?_eq_some tagged
      | none =>
          dsimp only [HOrElse.hOrElse, OrElse.orElse, Option.orElse]
          split
          · exact ⟨cursor.reaches_advance 1, fun _ same => nomatch same⟩
          · exact ⟨cursor.reaches_advance _, fun _ same => nomatch same⟩

theorem mem_readElements {fuel : Nat} {cursor : Cursor} {element : Element}
    (member : element ∈ readElements fuel cursor) : cursor.Tells element.kind := by
  induction fuel generalizing cursor with
  | zero => cases member
  | succ fuel ih =>
      unfold readElements at member
      split at member
      · cases member
      · obtain ⟨reaches, tells⟩ := readElement_tells cursor
        rcases List.mem_cons.mp member with rfl | further
        · exact tells
        · exact (ih further).before reaches

theorem mem_elements {source : List Char} {element : Element} {tag : Tag} {token : Token}
    (member : element ∈ elements source) (kind : element.kind = .tag tag)
    (inside : token ∈ tag.tokens) :
    ∃ start later, start.rest <:+ source ∧ readToken? start = some (token, later) :=
  mem_readElements member tag kind token inside

end LiveViews.Liquid
