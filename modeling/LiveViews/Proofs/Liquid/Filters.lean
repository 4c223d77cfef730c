import LiveViews.Liquid.Filter.Apply

/-!
How filters fail. A filter may refuse its input or break down on it, but it runs no template: it never
stops because templates are nested too deep (`flat_evaluate`).
-/

namespace LiveViews.Liquid

variable {α β : Type}

/-- A result that does not come of templates nested too deep. -/
def Flat (result : Except Stop α) : Prop :=
  result ≠ .error .endless

@[simp] theorem flat_ok (value : α) : Flat (.ok value) :=
  nofun

@[simp] theorem flat_pure (value : α) : Flat (pure value : Except Stop α) :=
  nofun

@[simp] theorem flat_failed (error : EngineError) : Flat (.error (.failed error) : Except Stop α) :=
  nofun

@[simp] theorem flat_crashed : Flat (.error .crashed : Except Stop α) :=
  nofun

theorem flat_bind {result : Except Stop α} {next : α → Except Stop β} (begins : Flat result)
    (goesOn : ∀ value, Flat (next value)) : Flat (result >>= next) := by
  cases result with
  | ok value => exact goesOn value
  | error stop =>
      rintro ⟨⟩
      exact begins rfl

theorem flat_map {result : Except Stop α} (change : α → β) (flat : Flat result) :
    Flat (result.map change) := by
  cases result with
  | ok value => exact flat_ok _
  | error stop =>
      rintro ⟨⟩
      exact flat rfl

theorem flat_passing {result : Except Stop α} (origin : String) (facts : Facts)
    (flat : Flat result) : Flat (result.mapError (Stop.passing origin facts)) := by
  rcases result with (_ | _ | _) | _
  · exact flat_failed _
  · exact flat_crashed
  · exact absurd rfl flat
  · exact flat_ok _

@[simp] theorem flat_orStop (result : Except EngineError α) : Flat (orStop result) := by
  cases result with
  | ok value => exact flat_ok value
  | error error => exact flat_failed error

namespace NumberFilter

@[simp] theorem flat_whole (value : Int) : Flat (whole value) := by
  unfold whole
  split <;> simp

theorem flat_combine {onWhole : Int → Int → Except Stop Value} (flat : ∀ a b, Flat (onWhole a b))
    (onFloats : Float → Float → Float) (input operand : Value) :
    Flat (combine onWhole onFloats input operand) := by
  unfold combine
  repeat' split
  · exact flat_failed _
  · exact flat_failed _
  · exact flat _ _
  · exact flat_ok _
  · exact flat_failed _

theorem flat_divide {operation : Value → Value → Except Stop Value}
    (flat : ∀ input divisor, Flat (operation input divisor)) (input divisor : Value) :
    Flat (divide operation input divisor) := by
  unfold divide
  split
  · exact flat_failed _
  · exact flat input divisor

theorem flat_modulo (input divisor : Value) : Flat (modulo input divisor) :=
  flat_divide (flat_combine (fun _ _ => flat_bind (flat_whole _) fun _ => flat_whole _) _) _ _

theorem flat_abs (input : Value) : Flat (abs input) := by
  unfold abs
  split <;> simp

theorem flat_toWhole (step : Float → Float) (input : Value) : Flat (toWhole step input) := by
  unfold toWhole
  split <;> simp

theorem flat_round (places : Int) (input : Value) : Flat (round places input) := by
  unfold round
  repeat' split
  · exact flat_failed _
  · exact flat_toWhole _ _
  · exact flat_failed _
  · exact flat_ok _

end NumberFilter

namespace ListFilter

theorem flat_onArray {operation : List Value → Except Stop Value}
    (flat : ∀ items, Flat (operation items)) (input : Value) : Flat (onArray operation input) := by
  unfold onArray
  split
  · exact flat _
  · exact flat_failed _

theorem flat_sorted (name : Option String) (isLess : Value → Value → Bool) (input : Value) :
    Flat (sorted name isLess input) := by
  unfold sorted
  dsimp only
  split <;> simp

theorem flat_compact (name : Option String) (input : Value) : Flat (compact name input) := by
  refine flat_onArray (fun items => ?_) input
  split <;> simp

theorem flat_concat (other input : Value) : Flat (concat other input) := by
  refine flat_onArray (fun items => ?_) input
  split <;> simp

theorem flat_selectWhere (name : String) (target : Option Value) (input : Value) :
    Flat (selectWhere name target input) := by
  unfold selectWhere
  dsimp only
  repeat' split
  all_goals simp

theorem flat_endOf (item? : List Value → Option Value) (char? : List Char → Option Char)
    (input : Value) : Flat (endOf item? char? input) := by
  unfold endOf
  split <;> simp

end ListFilter

namespace Filter

section Arguments

variable (scope : Variables)

@[simp] theorem flat_argument (operand : Operand) : Flat (argument scope operand) :=
  flat_orStop _

@[simp] theorem flat_textArgument (operand : Operand) : Flat (textArgument scope operand) :=
  flat_bind (flat_argument scope operand) fun _ => flat_pure _

@[simp] theorem flat_wholeArgument (operand : Operand) : Flat (wholeArgument scope operand) := by
  refine flat_bind (flat_argument scope operand) fun value => ?_
  cases value.integer? <;> simp

@[simp] theorem flat_optionalText (operand : Option Operand) :
    Flat (optionalText scope operand) := by
  cases operand with
  | none => exact flat_ok _
  | some operand => exact flat_map _ (flat_textArgument scope operand)

@[simp] theorem flat_optionalWhole (operand : Option Operand) (usual : Int) :
    Flat (optionalWhole scope operand usual) := by
  cases operand with
  | none => exact flat_ok _
  | some operand => exact flat_wholeArgument scope operand

@[simp] theorem flat_optionalValue (operand : Option Operand) :
    Flat (optionalValue scope operand) := by
  cases operand with
  | none => exact flat_ok _
  | some operand => exact flat_map _ (flat_argument scope operand)

end Arguments

@[simp] theorem flat_onText (operation : List Char → List Char) (input : Value) :
    Flat (onText operation input) :=
  flat_ok _

@[simp] theorem flat_onPresentText (operation : List Char → List Char) (input : Value) :
    Flat (onPresentText operation input) := by
  unfold onPresentText
  split <;> simp

theorem flat_sliceOf (offset length : Int) (input : Value) : Flat (sliceOf offset length input) := by
  unfold sliceOf
  dsimp only
  repeat' split
  all_goals simp

theorem flat_formatDate (now : Int) (format : String) (input : Value) :
    Flat (formatDate now format input) := by
  unfold formatDate
  repeat' split
  all_goals simp

theorem flat_splitBy (pattern : String) (input : Value) : Flat (splitBy pattern input) := by
  unfold splitBy
  dsimp only
  split <;> simp

theorem flat_decodeUrl (input : Value) : Flat (decodeUrl input) := by
  unfold decodeUrl
  repeat' split
  all_goals simp

theorem flat_apply (scope : Variables) (filter : Filter) (input : Value) :
    Flat (filter.apply scope input) := by
  have text := flat_textArgument scope
  have value := flat_argument scope
  cases filter with
  | capitalize | downcase | lstrip | newlineToBr | rstrip | strip | stripHtml | stripNewlines
  | upcase => exact flat_onText _ input
  | escape | escapeOnce | urlEncode => exact flat_onPresentText _ input
  | size => exact flat_ok _
  | append operand | prepend operand => exact flat_bind (text operand) fun _ => flat_pure _
  | default operand => exact flat_bind (value operand) fun _ => flat_pure _
  | remove pattern | removeFirst pattern =>
      exact flat_bind (text pattern) fun _ => flat_onText _ input
  | replace pattern replacement | replaceFirst pattern replacement =>
      exact flat_bind (text pattern) fun _ =>
        flat_bind (flat_optionalText scope replacement) fun _ => flat_onText _ input
  | split pattern => exact flat_bind (text pattern) fun _ => flat_splitBy _ input
  | date format => exact flat_bind (text format) fun _ => flat_formatDate _ _ input
  | urlDecode => exact flat_decodeUrl input
  | slice offset length =>
      exact flat_bind (flat_wholeArgument scope offset) fun _ =>
        flat_bind (flat_optionalWhole scope length 1) fun _ => flat_sliceOf _ _ input
  | truncate count ellipsis | truncateWords count ellipsis =>
      exact flat_bind (flat_optionalWhole scope count 50) fun _ =>
        flat_bind (flat_optionalText scope ellipsis) fun _ => flat_pure _
  | abs => exact NumberFilter.flat_abs input
  | ceil | floor => exact NumberFilter.flat_toWhole _ input
  | round places =>
      exact flat_bind (flat_optionalWhole scope places 0) fun _ => NumberFilter.flat_round _ input
  | atLeast operand | atMost operand | plus operand | minus operand | times operand =>
      exact flat_bind (value operand) fun _ =>
        NumberFilter.flat_combine (fun _ _ => NumberFilter.flat_whole _) _ input _
  | dividedBy divisor =>
      exact flat_bind (value divisor) fun _ => NumberFilter.flat_divide
        (NumberFilter.flat_combine (fun _ _ => NumberFilter.flat_whole _) _) input _
  | modulo divisor =>
      exact flat_bind (value divisor) fun _ => NumberFilter.flat_modulo input _
  | first | last => exact ListFilter.flat_endOf _ _ input
  | reverse | uniq => exact ListFilter.flat_onArray (fun _ => flat_ok _) input
  | join separator =>
      exact flat_bind (flat_optionalText scope separator) fun _ =>
        ListFilter.flat_onArray (fun _ => flat_ok _) input
  | map property =>
      exact flat_bind (text property) fun _ => ListFilter.flat_onArray (fun _ => flat_ok _) input
  | compact property =>
      exact flat_bind (flat_optionalText scope property) fun _ => ListFilter.flat_compact _ input
  | concat other => exact flat_bind (value other) fun _ => ListFilter.flat_concat _ input
  | sort property | sortNatural property =>
      exact flat_bind (flat_optionalText scope property) fun _ => ListFilter.flat_sorted _ _ input
  | selectWhere property target =>
      exact flat_bind (text property) fun _ =>
        flat_bind (flat_optionalValue scope target) fun _ => ListFilter.flat_selectWhere _ _ input

end Filter

theorem flat_step (scope : Variables) (step : FilterStep) (input : Value) :
    Flat (step.apply scope input) :=
  flat_passing _ _ (Filter.flat_apply scope step.filter input)

theorem flat_evaluate (scope : Variables) (chain : FilterChain) : Flat (chain.evaluate scope) := by
  refine flat_bind (flat_orStop _) fun entry => ?_
  induction chain.steps generalizing entry with
  | nil => exact flat_pure entry
  | cons step rest ih =>
      rw [List.foldlM_cons]
      exact flat_bind (flat_step scope step entry) ih

end LiveViews.Liquid
