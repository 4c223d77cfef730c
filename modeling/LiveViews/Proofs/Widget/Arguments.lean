import LiveViews.Proofs.Text.Classes
import LiveViews.Proofs.Text.Trim
import LiveViews.Widget.Directive

/-!
The arguments of a widget directive. They are read exactly if they are a name, a colon and an entity
with white space around them, which they are in one way only; else the error is about the first of the
three that is missing (`reads_exactly`).
-/

namespace LiveViews.Widget

open LiveViews.Text

theorem not_isBlank_of_continues {c : Char} (continues : continuesName c = true) :
    isBlank c = false := by
  simp only [continuesName, Bool.or_eq_true, decide_eq_true_eq] at continues
  rcases continues with (letter | rfl) | rfl
  · exact not_isBlank_alphanumeric letter
  · decide
  · decide

theorem continues_of_starts {c : Char} (starts : startsName c = true) : continuesName c = true := by
  simp only [startsName, Bool.or_eq_true, decide_eq_true_eq] at starts
  rcases starts with letter | rfl
  · simp [continuesName, isAlphanumeric, letter]
  · decide

/-! ### The grammar -/

def Blank (text : List Char) : Prop :=
  ∀ c ∈ text, isBlank c = true

inductive Name : List Char → Prop where
  | intro {first : Char} {rest : List Char} : startsName first = true →
      (∀ c ∈ rest, continuesName c = true) → Name (first :: rest)

structure Entity (text : List Char) : Prop where
  nonempty : text ≠ []
  visible : ∀ c ∈ text, isBlank c = false

inductive HasName : List Char → Prop where
  | intro {before name rest : List Char} : Blank before → Name name →
      HasName (before ++ (name ++ rest))

inductive HasColon : List Char → Prop where
  | intro {before name between rest : List Char} : Blank before → Name name → Blank between →
      HasColon (before ++ (name ++ (between ++ ':' :: rest)))

/-- Arguments with all their parts: a name, a colon, an entity, and the white space around them. -/
structure Written where
  before : List Char
  name : List Char
  between : List Char
  behind : List Char
  entity : List Char
  after : List Char
  blankBefore : Blank before
  named : Name name
  blankBetween : Blank between
  blankBehind : Blank behind
  visible : Entity entity
  blankAfter : Blank after

namespace Written

def text (written : Written) : List Char :=
  written.before ++ (written.name ++ (written.between ++
    ':' :: (written.behind ++ (written.entity ++ written.after))))

def directive (written : Written) : Directive :=
  ⟨written.name, written.entity⟩

end Written

/-- Of a name, a colon and an entity, the first that a text does not have in its place. -/
def FirstMissing (text : List Char) : DirectiveError → Prop
  | .name => ¬HasName text
  | .colon => HasName text ∧ ¬HasColon text
  | .entity => HasColon text ∧ ∀ written : Written, written.text ≠ text

theorem Name.continues {name : List Char} (named : Name name) :
    ∀ c ∈ name, continuesName c = true := by
  obtain ⟨starts, continues⟩ := named
  intro c member
  rcases List.mem_cons.mp member with rfl | later
  · exact continues_of_starts starts
  · exact continues c later

theorem Name.head?_visible {name : List Char} (named : Name name) (rest : List Char) :
    ∀ c, (name ++ rest).head? = some c → isBlank c = false := by
  obtain ⟨starts, _⟩ := named
  rintro c ⟨⟩
  exact not_isBlank_of_continues (continues_of_starts starts)

theorem Entity.head?_visible {entity : List Char} (visible : Entity entity) (rest : List Char) :
    ∀ c, (entity ++ rest).head? = some c → isBlank c = false := by
  obtain ⟨first, later, rfl⟩ := List.exists_cons_of_ne_nil visible.nonempty
  rintro c ⟨⟩
  exact visible.visible first List.mem_cons_self

theorem endsVisibly_append_entity (front : List Char) {entity : List Char} (visible : Entity entity) :
    endsVisibly (front ++ entity) = true := by
  have last := List.getLast?_eq_some_getLast visible.nonempty
  rw [endsVisibly, List.getLast?_append, last, Option.some_or, Option.all_some, Bool.not_eq_true']
  exact visible.visible _ (List.getLast_mem visible.nonempty)

theorem head?_between {between : List Char} (blank : Blank between) (rest : List Char) :
    ∀ c, (between ++ ':' :: rest).head? = some c → continuesName c = false := by
  intro c first
  rw [← Bool.not_eq_true]
  intro continues
  cases between with
  | nil =>
      cases first
      revert continues
      decide
  | cons space later =>
      cases first
      have known := blank c List.mem_cons_self
      rw [not_isBlank_of_continues continues] at known
      cases known

theorem head?_colon (rest : List Char) : ∀ c, (':' :: rest).head? = some c → isBlank c = false := by
  rintro c ⟨⟩
  decide

theorem head?_blank {after : List Char} (blank : Blank after) :
    ∀ c, after.head? = some c → (!isBlank c) = false := by
  intro c first
  rw [blank c (List.mem_of_head? first)]
  rfl

theorem cut_at_colon {before name between rest before' name' between' rest' : List Char}
    (blankBefore : Blank before) (named : Name name) (blankBetween : Blank between)
    (blankBefore' : Blank before') (named' : Name name') (blankBetween' : Blank between')
    (same : before ++ (name ++ (between ++ ':' :: rest)) =
      before' ++ (name' ++ (between' ++ ':' :: rest'))) :
    before = before' ∧ name = name' ∧ between = between' ∧ rest = rest' := by
  obtain ⟨begun, onward⟩ := cut_unique blankBefore (named.head?_visible _) blankBefore'
    (named'.head?_visible _) same
  obtain ⟨called, onward⟩ := cut_unique named.continues (head?_between blankBetween _) named'.continues
    (head?_between blankBetween' _) onward
  obtain ⟨apart, onward⟩ := cut_unique blankBetween (head?_colon _) blankBetween' (head?_colon _) onward
  exact ⟨begun, called, apart, (List.cons.inj onward).2⟩

theorem Written.text_injective {first second : Written} (same : first.text = second.text) :
    first = second := by
  obtain ⟨before, name, between, behind, entity, after, blankBefore, named, blankBetween, blankBehind,
    visible, blankAfter⟩ := first
  obtain ⟨before', name', between', behind', entity', after', blankBefore', named', blankBetween',
    blankBehind', visible', blankAfter'⟩ := second
  obtain ⟨rfl, rfl, rfl, same⟩ := cut_at_colon blankBefore named blankBetween blankBefore' named'
    blankBetween' same
  obtain ⟨rfl, same⟩ := cut_unique blankBehind (visible.head?_visible _) blankBehind'
    (visible'.head?_visible _) same
  obtain ⟨rfl, rfl⟩ := cut_unique (p := fun c => !isBlank c)
    (fun c member => by simp [visible.visible c member]) (head?_blank blankAfter)
    (fun c member => by simp [visible'.visible c member]) (head?_blank blankAfter') same
  rfl

/-! ### What is read -/

theorem readEntity_cases (text : List Char) :
    (∃ before entity after, Blank before ∧ Entity entity ∧ Blank after ∧
      text = before ++ (entity ++ after) ∧ readEntity text = .ok entity) ∨
    (∀ before entity after, Blank before → Entity entity → Blank after →
      text ≠ before ++ (entity ++ after)) ∧ readEntity text = .error .entity := by
  unfold readEntity
  dsimp only
  split
  next missing =>
    refine Or.inr ⟨?_, rfl⟩
    rintro before entity after blankBefore visible blankAfter rfl
    rw [← List.append_assoc, trim_between blankBefore visible.visible blankAfter, Bool.or_eq_true,
      List.isEmpty_iff, List.any_eq_true] at missing
    rcases missing with nothing | ⟨c, member, blank⟩
    · exact visible.nonempty nothing
    · rw [visible.visible c member] at blank
      cases blank
  next present =>
    rw [Bool.or_eq_true, not_or, List.isEmpty_iff, Bool.not_eq_true, List.any_eq_false] at present
    obtain ⟨before, after, blankBefore, blankAfter, whole⟩ := trim_split text
    rw [List.append_assoc] at whole
    exact Or.inl ⟨before, _, after, blankBefore,
      ⟨present.1, fun c member => Bool.eq_false_iff.mpr (present.2 c member)⟩, blankAfter, whole, rfl⟩

theorem read_of_colon {before name between : List Char} (blankBefore : Blank before) (named : Name name)
    (blankBetween : Blank between) (rest : List Char) :
    Directive.read (before ++ (name ++ (between ++ ':' :: rest))) =
      (readEntity (trimEnd rest)).map fun entity => ⟨name, entity⟩ := by
  have colon : isBlank ':' = false := by decide
  have trimmed : trim (before ++ (name ++ (between ++ ':' :: rest))) =
      name ++ (between ++ ':' :: trimEnd rest) := by
    rw [trim, trimStart, dropWhile_append_stop blankBefore (named.head?_visible _),
      ← List.append_assoc, trimEnd_append_cons colon, List.append_assoc]
  have taken := takeWhile_append_stop named.continues (head?_between blankBetween (trimEnd rest))
  have left := dropWhile_append_stop named.continues (head?_between blankBetween (trimEnd rest))
  have begun : trimStart (between ++ ':' :: trimEnd rest) = ':' :: trimEnd rest :=
    dropWhile_append_stop blankBetween (head?_colon _)
  have starts : (name.head?.any startsName) = true := by
    obtain ⟨starts, _⟩ := named
    exact starts
  unfold Directive.read
  dsimp only
  rw [trimmed, taken, left, begun, starts]
  rfl

inductive Outcome (text : List Char) : Except DirectiveError Directive → Prop where
  | missing (error : DirectiveError) : FirstMissing text error → Outcome text (.error error)
  | whole (written : Written) : written.text = text → Outcome text (.ok written.directive)

theorem outcome_of_colon {before name between : List Char} (blankBefore : Blank before)
    (named : Name name) (blankBetween : Blank between) (rest : List Char) :
    Outcome (before ++ (name ++ (between ++ ':' :: rest)))
      (Directive.read (before ++ (name ++ (between ++ ':' :: rest)))) := by
  rw [read_of_colon blankBefore named blankBetween]
  rcases readEntity_cases (trimEnd rest) with
    ⟨behind, entity, after, blankBehind, visible, blankAfter, whole, read⟩ | ⟨nothing, read⟩
  · obtain ⟨tail, blankTail, ends⟩ := trimEnd_split rest
    rw [read]
    refine Outcome.whole ⟨before, name, between, behind, entity, after ++ tail, blankBefore, named,
      blankBetween, blankBehind, visible, ?_⟩ ?_
    · intro c member
      rcases List.mem_append.mp member with here | later
      · exact blankAfter c here
      · exact blankTail c later
    · rw [Written.text, ends, whole]
      simp only [List.append_assoc]
  · rw [read]
    refine Outcome.missing .entity ⟨.intro blankBefore named blankBetween, fun written same => ?_⟩
    obtain ⟨_, _, _, behind⟩ := cut_at_colon written.blankBefore written.named written.blankBetween
      blankBefore named blankBetween same
    have trimmed : trimEnd rest = written.behind ++ (written.entity ++ []) := by
      rw [← behind, List.append_nil, ← List.append_assoc]
      exact trimEnd_append (endsVisibly_append_entity _ written.visible) written.blankAfter
    exact nothing _ _ _ written.blankBehind written.visible (by simp [Blank]) trimmed

theorem HasColon.hasName {text : List Char} (colon : HasColon text) : HasName text := by
  obtain ⟨blankBefore, named, _⟩ := colon
  exact .intro blankBefore named

theorem Written.hasColon (written : Written) : HasColon written.text :=
  .intro written.blankBefore written.named written.blankBetween

theorem name_of_starts {text : List Char}
    (starts : ((text.takeWhile continuesName).head?.any startsName) = true) :
    Name (text.takeWhile continuesName) := by
  cases name : text.takeWhile continuesName with
  | nil =>
      rw [name] at starts
      cases starts
  | cons first later =>
      rw [name] at starts
      refine .intro starts fun c member => ?_
      exact List.mem_takeWhile_imp (name ▸ List.mem_cons_of_mem first member)

theorem hasName_iff {text : List Char} :
    HasName text ↔ ((trim text).takeWhile continuesName).head?.any startsName = true := by
  constructor
  · rintro ⟨blankBefore, ⟨starts, continues⟩⟩
    have goesOn := continues_of_starts starts
    rw [trim, trimStart, List.dropWhile_append_of_pos blankBefore, List.cons_append,
      List.dropWhile_cons_of_neg (by simp [not_isBlank_of_continues goesOn]),
      trimEnd_cons (not_isBlank_of_continues goesOn), List.takeWhile_cons_of_pos goesOn]
    exact starts
  · intro starts
    obtain ⟨before, after, blankBefore, _, whole⟩ := trim_split text
    rw [whole, ← List.takeWhile_append_dropWhile (p := continuesName) (l := trim text),
      List.append_assoc, List.append_assoc]
    exact .intro blankBefore (name_of_starts starts)

theorem read_of_no_name {text : List Char} (nameless : ¬HasName text) :
    Directive.read text = .error .name := by
  rw [hasName_iff, Bool.not_eq_true] at nameless
  unfold Directive.read
  dsimp only
  rw [nameless]
  rfl

theorem read_of_no_colon {text : List Char} (named : HasName text) (none : ¬HasColon text) :
    Directive.read text = .error .colon := by
  rw [hasName_iff] at named
  unfold Directive.read
  dsimp only
  rw [if_neg (by simp [named])]
  split
  next rest colon =>
    obtain ⟨before, after, blankBefore, _, whole⟩ := trim_split text
    have parts : trim text = (trim text).takeWhile continuesName ++
        (((trim text).dropWhile continuesName).takeWhile isBlank ++ ':' :: rest) := by
      rw [← colon, trimStart, List.takeWhile_append_dropWhile, List.takeWhile_append_dropWhile]
    rw [parts, List.append_assoc, List.append_assoc, List.append_assoc] at whole
    exact absurd (whole ▸ .intro blankBefore (name_of_starts named) fun c => List.mem_takeWhile_imp) none
  next => rfl

theorem outcome (arguments : List Char) : Outcome arguments (Directive.read arguments) := by
  by_cases colon : HasColon arguments
  · obtain ⟨blankBefore, named, blankBetween⟩ := colon
    exact outcome_of_colon blankBefore named blankBetween _
  by_cases name : HasName arguments
  · rw [read_of_no_colon name colon]
    exact .missing .colon ⟨name, colon⟩
  · rw [read_of_no_name name]
    exact .missing .name name

theorem FirstMissing.unique {text : List Char} {first second : DirectiveError}
    (missing : FirstMissing text first) (other : FirstMissing text second) : first = second := by
  cases first with
  | name =>
      cases second with
      | name => rfl
      | colon => exact absurd other.1 missing
      | entity => exact absurd other.1.hasName missing
  | colon =>
      cases second with
      | name => exact absurd missing.1 other
      | colon => rfl
      | entity => exact absurd other.1 missing.2
  | entity =>
      cases second with
      | name => exact absurd missing.1.hasName other
      | colon => exact absurd missing.1 other.2
      | entity => rfl

theorem FirstMissing.not_written {error : DirectiveError} {written : Written}
    (missing : FirstMissing written.text error) : False := by
  cases error with
  | name => exact missing written.hasColon.hasName
  | colon => exact missing.2 written.hasColon
  | entity => exact missing.2 written rfl

theorem reads_exactly (arguments : List Char) :
    (∀ directive, Directive.read arguments = .ok directive ↔
      ∃ written : Written, written.text = arguments ∧ written.directive = directive) ∧
    (∀ first second : Written, first.text = arguments → second.text = arguments → first = second) ∧
    ∀ error, Directive.read arguments = .error error ↔ FirstMissing arguments error := by
  have unique : ∀ first second : Written, first.text = arguments → second.text = arguments →
      first = second := fun first second one other => Written.text_injective (one.trans other.symm)
  have read := outcome arguments
  generalize Directive.read arguments = answer at read ⊢
  refine ⟨fun directive => ⟨?_, ?_⟩, unique, fun error => ⟨?_, ?_⟩⟩
  · rintro rfl
    cases read with
    | whole written whole => exact ⟨written, whole, rfl⟩
  · rintro ⟨written, rfl, rfl⟩
    rcases read with ⟨error, missing⟩ | ⟨other, whole⟩
    · exact missing.not_written.elim
    · rw [Written.text_injective whole]
  · rintro rfl
    cases read with
    | missing _ missing => exact missing
  · intro missing
    rcases read with ⟨other, first⟩ | ⟨written, rfl⟩
    · rw [first.unique missing]
    · exact missing.not_written.elim

end LiveViews.Widget
