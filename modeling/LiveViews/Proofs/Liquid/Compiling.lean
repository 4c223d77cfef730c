import LiveViews.Proofs.Liquid.Ranges

/-!
What compiling makes of bounded tags. All that a part of the compiler takes from the elements it leaves
out, so that bounded elements stay bounded, and every loop head comes from the tokens of a tag
(`Compiling`). A text that passes the check for oversized ranges compiles to a bounded template
(`bounded_of_parseView`).
-/

namespace LiveViews.Liquid

variable {limit : Nat} {α β : Type}

def Reads (right : α → Prop) (reading : Reading α) : Prop :=
  ∀ ⦃arguments value later⦄, reading.run arguments = .ok (value, later) → right value

namespace Reads

variable {right : α → Prop}

theorem pure {value : α} (holds : right value) : Reads right (pure value) := by
  rintro _ _ _ ⟨⟩
  exact holds

theorem refuse (fault : Fault) : Reads right (Reading.refuse fault) := by
  rintro _ _ _ ⟨⟩

theorem bind {first : Reading β} {next : β → Reading α} (goesOn : ∀ value, Reads right (next value)) :
    Reads right (first >>= next) := by
  intro _ _ _ read
  obtain ⟨value, _, _, behind⟩ := Reading.bind_ok read
  exact goesOn value behind

theorem assign : Reads (fun node => node.bounded limit = true) Reading.assign :=
  bind fun _ => bind fun _ => bind fun _ => bind fun _ => pure rfl

theorem bind_pair {γ : Type} {first : Reading (β × γ)} {next : β × γ → Reading α}
    (goesOn : ∀ value other, Reads right (next (value, other))) : Reads right (first >>= next) :=
  bind fun given => goesOn given.1 given.2

theorem cycle : Reads (fun node => node.bounded limit = true) Reading.cycle := by
  refine bind fun _ => bind fun first => bind fun next => ?_
  cases next with
  | none => exact bind fun _ => bind_pair fun _ _ => bind fun _ => pure rfl
  | some token =>
      dsimp only
      split
      · exact bind fun _ => bind_pair fun _ _ => bind fun _ => pure rfl
      · exact bind fun _ => bind fun _ => bind_pair fun _ _ => bind fun _ => pure rfl

theorem insert : Reads (fun node => node.bounded limit = true) Reading.insert :=
  bind fun _ => bind fun _ => bind fun _ => bind fun _ => pure rfl

theorem directive (index : Nat) :
    Reads (fun node => node.bounded limit = true) (Reading.directive index) := by
  refine bind fun _ => ?_
  dsimp only
  split
  · exact pure rfl
  · exact refuse _

end Reads

def Tag.Bounded (limit : Nat) (tag : Tag) : Prop :=
  ∀ token ∈ tag.tokens, token.Bounded limit

def Element.Bounded (limit : Nat) (element : Element) : Prop :=
  ∀ tag, element.kind = .tag tag → tag.Bounded limit

def Progress.Bounded (limit : Nat) (progress : Progress) : Prop :=
  ∀ element ∈ progress.rest, element.Bounded limit

def Ending.Bounded (limit : Nat) : Ending → Prop
  | .divided tag => tag.Bounded limit
  | .finished | .closed => True

/-- From bounded elements a part leaves bounded ones, and what it gives is right. -/
def Compiles (limit : Nat) (right : α → Prop) (part : Compile α) : Prop :=
  ∀ progress : Progress, progress.Bounded limit → (part.run.run progress).2.Bounded limit ∧
    ∀ value, (part.run.run progress).1 = .ok value → right value

namespace Compiles

variable {right : α → Prop}

theorem pure {value : α} (holds : right value) : Compiles limit right (pure value) := by
  refine fun progress bounded => ⟨bounded, ?_⟩
  rintro _ ⟨⟩
  exact holds

theorem throw (fault : Fault) : Compiles limit right (throw fault) := by
  refine fun progress bounded => ⟨bounded, ?_⟩
  rintro _ ⟨⟩

theorem bind {given : β → Prop} {first : Compile β} {next : β → Compile α}
    (begins : Compiles limit given first)
    (goesOn : ∀ value, given value → Compiles limit right (next value)) :
    Compiles limit right (first >>= next) := by
  intro progress bounded
  obtain ⟨after, holds⟩ := begins progress bounded
  have ran : (first >>= next).run.run progress = match first.run.run progress with
      | (.ok value, later) => (next value).run.run later
      | (.error fault, later) => (.error fault, later) := by
    show (ExceptT.bindCont next (first.run.run progress).1).run (first.run.run progress).2 = _
    rcases first.run.run progress with ⟨_ | _, _⟩ <;> rfl
  rw [ran]
  revert after holds
  rcases first.run.run progress with ⟨fault | value, later⟩
  · intro after _
    exact ⟨after, fun _ impossible => nomatch impossible⟩
  · intro after holds
    exact goesOn value (holds value rfl) later after

theorem get : Compiles limit (Progress.Bounded limit) (get : Compile Progress) := by
  refine fun progress bounded => ⟨bounded, ?_⟩
  rintro _ ⟨⟩
  exact bounded

theorem set {progress : Progress} (bounded : progress.Bounded limit) :
    Compiles limit (fun _ => True) (set progress : Compile PUnit) :=
  fun _ _ => ⟨bounded, fun _ _ => trivial⟩

theorem next? : Compiles limit (fun found => ∀ element, found = some element → element.Bounded limit)
    Compile.next? := by
  refine bind get fun progress bounded => ?_
  cases rest : progress.rest with
  | nil =>
      dsimp only
      split
      · exact throw _
      · refine bind (set (rest ▸ bounded)) fun _ _ => pure ?_
        rintro _ ⟨⟩
  | cons element later =>
      have known : ∀ each ∈ element :: later, each.Bounded limit := rest ▸ bounded
      refine bind (set fun each member => known each (List.mem_cons_of_mem _ member)) fun _ _ => ?_
      refine pure ?_
      rintro _ ⟨⟩
      exact known element List.mem_cons_self

theorem read_tag {tag : Tag} {reading : Reading α}
    (reads : ∀ value later, reading.run ⟨tag.tokens, tag.stop⟩ = .ok (value, later) → right value) :
    Compiles limit right (Compile.read tag reading) := by
  unfold Compile.read Tag.read
  cases answer : reading.run ⟨tag.tokens, tag.stop⟩ with
  | error fault => exact throw fault
  | ok result => exact pure (reads result.1 result.2 answer)

theorem read {tag : Tag} {reading : Reading α} (reads : Reads right reading) :
    Compiles limit right (Compile.read tag reading) :=
  read_tag fun _ _ answer => reads answer

theorem read_any {tag : Tag} {reading : Reading α} :
    Compiles limit (fun _ => True) (Compile.read tag reading) :=
  read_tag fun _ _ _ => trivial

theorem chain (chain : Chain) : Compiles limit (fun _ => True) (Compile.chain chain) := by
  unfold Compile.chain
  cases resolveChain chain with
  | error fault => exact throw fault
  | ok chain => exact pure trivial

theorem stray (start : Nat) : Compiles limit right (Compile.stray start) := by
  refine bind get fun progress _ => ?_
  refine bind (set fun _ member => nomatch member) fun _ _ => ?_
  split
  · exact throw _
  · exact throw _

theorem tryCatch {part : Compile α} {handler : Fault → Compile α}
    (compiles : Compiles limit right part) (handles : ∀ fault, Compiles limit right (handler fault)) :
    Compiles limit right (tryCatch part handler) := by
  intro progress bounded
  obtain ⟨after, holds⟩ := compiles progress bounded
  have ran : (MonadExcept.tryCatch part handler).run.run progress = match part.run.run progress with
      | (.ok value, later) => (.ok value, later)
      | (.error fault, later) => (handler fault).run.run later := by
    show (ExceptT.tryCatch part handler).run.run progress = _
    unfold ExceptT.tryCatch ExceptT.run
    rw [ExceptT.mk, StateT.run_bind]
    rcases StateT.run part progress with ⟨_ | _, _⟩ <;> rfl
  rw [ran]
  revert after holds
  rcases part.run.run progress with ⟨fault | value, later⟩
  · intro after _
    exact handles fault later after
  · exact fun after holds => ⟨after, holds⟩

theorem attempt {part : Compile α} (compiles : Compiles limit right part) :
    Compiles limit (fun _ => True) (Compile.attempt part) := by
  have discarded : Compiles limit (fun _ => True) (discard part) :=
    bind compiles fun _ _ => pure trivial
  refine tryCatch discarded fun fault => ?_
  cases fault with
  | crashed => exact throw _
  | malformed | unexpected | located | atEnd | plain => exact pure trivial

theorem raw (fuel : Nat) : Compiles limit (fun _ => True) (rawContent fuel) := by
  induction fuel with
  | zero => exact throw _
  | succ fuel ih =>
      refine bind next? fun found _ => ?_
      cases found with
      | none => exact throw _
      | some element =>
          dsimp only
          split
          · exact pure trivial
          · exact bind ih fun _ _ => pure trivial

end Compiles

/-- All parts of the compiler give what is bounded, with so much fuel. -/
structure Compiling (limit fuel : Nat) : Prop where
  block : ∀ closing dividers, Compiles limit
    (fun result => result.1.bounded limit = true ∧ result.2.Bounded limit)
    (compileBlock fuel closing dividers)
  body : ∀ closing, Compiles limit (fun body => body.bounded limit = true) (compileBody fuel closing)
  tag : ∀ tag : Tag, tag.Bounded limit →
    Compiles limit (fun node => node.bounded limit = true) (compileTag fuel tag)
  comment : Compiles limit (fun _ => True) (skipComment fuel)
  branch : ∀ expected (tag : Tag), tag.Bounded limit →
    Compiles limit (fun node => node.bounded limit = true) (compileBranch fuel expected tag)
  clauses : ∀ ending : Ending, ending.Bounded limit →
    Compiles limit (fun clauses => clauses.bounded limit = true) (compileClauses fuel ending)

namespace Compiling

variable {fuel : Nat}

theorem block_succ (inner : Compiling limit fuel) (closing : Option String) (dividers : List String) :
    Compiles limit (fun result => result.1.bounded limit = true ∧ result.2.Bounded limit)
      (compileBlock (fuel + 1) closing dividers) := by
  have more : ∀ node : Node, node.bounded limit = true →
      Compiles limit (fun result : Block × Ending =>
        result.1.bounded limit = true ∧ result.2.Bounded limit) (do
          let result ← compileBlock fuel closing dividers
          return (.step node result.1, result.2)) := by
    intro node bounded
    refine .bind (inner.block closing dividers) fun result known => .pure ⟨?_, known.2⟩
    simp [Block.bounded, bounded, known.1]
  unfold compileBlock
  refine .bind .next? fun found known => ?_
  cases found with
  | none =>
      cases closing with
      | none => exact .pure ⟨rfl, trivial⟩
      | some name => exact .throw _
  | some element =>
      have here := known element rfl
      dsimp only
      cases kind : element.kind with
      | text content => exact more _ rfl
      | output written => exact .bind (.chain written) fun _ _ => more _ rfl
      | stray => exact .stray _
      | tag tag =>
          have bounded := here tag kind
          dsimp only
          split
          · exact .bind .read_any fun _ _ => .pure ⟨rfl, trivial⟩
          · split
            · exact .pure ⟨rfl, bounded⟩
            · exact .bind (inner.tag tag bounded) fun node nodeBounded => more node nodeBounded

theorem body_succ (inner : Compiling limit fuel) (closing : String) :
    Compiles limit (fun body => body.bounded limit = true) (compileBody (fuel + 1) closing) :=
  .bind (inner.block _ _) fun _ known => .pure known.1

theorem comment_succ (inner : Compiling limit fuel) :
    Compiles limit (fun _ => True) (skipComment (fuel + 1)) := by
  unfold skipComment
  refine .bind .next? fun found known => ?_
  cases found with
  | none => exact .throw _
  | some element =>
      dsimp only
      split
      next tag kind =>
        split
        · exact .read_any
        · exact .bind (.attempt (inner.tag tag (known element rfl tag kind))) fun _ _ => inner.comment
      next => exact inner.comment

theorem branch_succ (inner : Compiling limit fuel) (expected : Bool) (tag : Tag) :
    Compiles limit (fun node => node.bounded limit = true)
      (compileBranch (fuel + 1) expected tag) := by
  unfold compileBranch
  refine .bind .read_any fun condition _ => ?_
  refine .bind (inner.block _ _) ?_
  rintro ⟨onTrue, ending⟩ ⟨trueBounded, endingBounded⟩
  have ends : ∀ {part : Compile Block}, Compiles limit (fun block => block.bounded limit = true) part →
      Compiles limit (fun node => node.bounded limit = true) (do
        let onFalse ← part
        return Node.branch condition expected onTrue onFalse) := by
    intro part compiles
    refine .bind compiles fun onFalse falseBounded => .pure ?_
    simp [Node.bounded, trueBounded, falseBounded]
  cases ending with
  | finished | closed => exact ends (.pure rfl)
  | divided divider =>
      dsimp only
      split
      · refine .bind (inner.branch expected divider endingBounded) fun node bounded => ?_
        exact ends (.pure (by simp [Block.bounded, bounded]))
      · exact ends (inner.body _)

theorem clauses_succ (inner : Compiling limit fuel) (ending : Ending) (bounded : ending.Bounded limit) :
    Compiles limit (fun clauses => clauses.bounded limit = true)
      (compileClauses (fuel + 1) ending) := by
  unfold compileClauses
  cases ending with
  | finished | closed => exact .pure rfl
  | divided divider =>
      dsimp only
      split
      · refine .bind .read_any fun values _ => ?_
        refine .bind (inner.block _ _) ?_
        rintro ⟨body, ending⟩ ⟨bodyBounded, endingBounded⟩
        refine .bind (inner.clauses ending endingBounded) fun rest restBounded => .pure ?_
        simp [Clauses.bounded, bodyBounded, restBounded]
      · exact .bind .read_any fun _ _ => .bind (inner.body _) fun _ bodyBounded => .pure bodyBounded

theorem tag_succ (inner : Compiling limit fuel) (tag : Tag) (bounded : tag.Bounded limit) :
    Compiles limit (fun node => node.bounded limit = true) (compileTag (fuel + 1) tag) := by
  have head : ∀ columns, Compiles limit (fun head => head.2.1.bounded limit = true)
      (Compile.read tag (Reading.loopHead columns)) := fun columns =>
    .read_tag fun _ _ answer => Reading.loopHead_ok answer bounded
  unfold compileTag
  split
  next assign => exact .read .assign
  next leave => exact .bind .read_any fun _ _ => .pure rfl
  next goOn => exact .bind .read_any fun _ _ => .pure rfl
  next cycle => exact .read .cycle
  next increment => exact .bind .read_any fun _ _ => .pure rfl
  next decrement => exact .bind .read_any fun _ _ => .pure rfl
  next insert => exact .read .insert
  next directive => exact .bind .get fun _ known => .bind (.set known) fun _ _ => .read (.directive _)
  next comment => exact .bind .read_any fun _ _ => .bind inner.comment fun _ _ => .pure rfl
  next raw => exact .bind .read_any fun _ _ => .bind .get fun _ _ => .bind (.raw _) fun _ _ => .pure rfl
  next capture => exact .bind .read_any fun _ _ => .bind (inner.body _) fun _ known => .pure known
  next changed => exact .bind .read_any fun _ _ => .bind (inner.body _) fun _ known => .pure known
  next positive => exact inner.branch true tag bounded
  next negative => exact inner.branch false tag bounded
  next select =>
    refine .bind .read_any fun target _ => .bind (inner.block _ _) ?_
    rintro ⟨_, ending⟩ ⟨_, endingBounded⟩
    exact .bind (inner.clauses ending endingBounded) fun _ known => .pure known
  next loop =>
    refine .bind (head false) ?_
    rintro ⟨binder, source, attributes⟩ sourceBounded
    refine .bind (inner.block _ _) ?_
    rintro ⟨body, ending⟩ ⟨bodyBounded, endingBounded⟩
    have ends : ∀ {part : Compile Block},
        Compiles limit (fun block => block.bounded limit = true) part →
        Compiles limit (fun node => node.bounded limit = true) (do
          let otherwise ← part
          return Node.loop binder source attributes.limit attributes.offset attributes.reversed body
            otherwise) := by
      intro part compiles
      refine .bind compiles fun otherwise known => .pure ?_
      simp [Node.bounded, sourceBounded, bodyBounded, known]
    cases ending with
    | finished | closed => exact ends (.pure rfl)
    | divided divider => exact .bind .read_any fun _ _ => ends (inner.body _)
  next table =>
    refine .bind (head true) ?_
    rintro ⟨binder, source, attributes⟩ sourceBounded
    refine .bind (inner.body _) fun body bodyBounded => .pure ?_
    simp [Node.bounded, sourceBounded, bodyBounded]
  next => exact .throw _

end Compiling

theorem compiling (limit fuel : Nat) : Compiling limit fuel := by
  induction fuel with
  | zero => exact ⟨fun _ _ => .throw _, fun _ => .throw _, fun _ _ => .throw _, .throw _,
      fun _ _ _ => .throw _, fun _ _ => .throw _⟩
  | succ fuel inner => exact ⟨inner.block_succ, inner.body_succ, inner.tag_succ, inner.comment_succ,
      fun expected tag _ => inner.branch_succ expected tag, inner.clauses_succ⟩

end LiveViews.Liquid

namespace LiveViews

open LiveViews.Liquid

/-- A text that passes the check compiles to a template without an oversized range. -/
theorem bounded_of_parse {limit : Nat} {text : String} {template : Template}
    (checked : oversizedRange? limit text.toList = none)
    (parsed : Template.parse text = .ok template) : template.body.bounded limit = true := by
  have start : Progress.Bounded limit { source := text.toList, rest := elements text.toList } :=
    fun _ member _ kind => bounded_of_mem_elements checked member kind
  obtain ⟨_, compiled⟩ := (compiling limit _).block none [] _ start
  unfold Template.parse at parsed
  dsimp only at parsed
  split at parsed
  next body ending answer =>
    cases parsed
    exact (compiled _ answer).1
  next => cases parsed

theorem bounded_of_parseView {limit : Nat} {text : String} {template : Template}
    (parsed : parseView limit text = .ok template) : template.body.bounded limit = true := by
  unfold parseView at parsed
  split at parsed
  · cases parsed
  next checked =>
    split at parsed
    next answer =>
      cases parsed
      exact bounded_of_parse checked answer
    next => cases parsed
    next => cases parsed

end LiveViews
