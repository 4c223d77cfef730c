import LiveViews.Json.Reader
import LiveViews.Json.Writer
import Mathlib.Data.Char
import Mathlib.Data.List.Basic

/-!
JSON that is read back. What is written of a value without floats is read as that value, if its numbers
fit and it does not nest too deep (`ofText?_text`).
-/

namespace LiveViews.Text

theorem isDigit_eq (c : Char) : isDigit c = c.isDigit := by
  simp [isDigit, Char.isDigit, Char.le_def]

theorem hexValue?_hexDigit : ∀ value < 16, hexValue? (hexDigit value) = some value := by
  decide

theorem isDigit_of_mem_toDigits {number : Nat} {c : Char} (member : c ∈ Nat.toDigits 10 number) :
    isDigit c = true := by
  rw [isDigit_eq]
  exact Nat.isDigit_of_mem_toDigits (by omega) (by omega) member

theorem digitsValue_toDigits (number : Nat) : digitsValue (Nat.toDigits 10 number) = number := by
  have read := Nat.ofDigitChars_toDigits (b := 10) (n := number) (by omega) (by omega)
  simpa [Nat.ofDigitChars, digitsValue, digitValue, Nat.mul_comm] using read

theorem head?_toDigits {number : Nat} (positive : 0 < number) :
    (Nat.toDigits 10 number).head? ≠ some '0' := by
  induction number using Nat.strongRecOn with
  | _ number ih =>
      by_cases small : number < 10
      · have digit : ∀ value < 10, 0 < value → [Nat.digitChar value].head? ≠ some '0' := by decide
        rw [Nat.toDigits_of_lt_base small]
        exact digit number small positive
      · have shorter := ih (number / 10) (by omega) (by omega)
        have some : Nat.toDigits 10 (number / 10) ≠ [] :=
          List.ne_nil_of_length_pos Nat.length_toDigits_pos
        rw [Nat.toDigits_of_base_le (by omega) (by omega), List.head?_append_of_ne_nil _ some]
        exact shorter

end LiveViews.Text

namespace LiveViews.Json

open LiveViews.Text

section Strings

theorem readStringAfter_plain {c : Char} (quote : c ≠ '"') (slash : c ≠ '\\') (shown : ¬c.toNat < 0x20)
    (fuel : Nat) (collected rest : List Char) :
    readStringAfter (fuel + 1) collected (c :: rest) = readStringAfter fuel (c :: collected) rest := by
  rw [readStringAfter.eq_def]
  split
  · contradiction
  next same =>
    cases same
    split
    · simp_all
    · simp_all
    · simp_all
    next other =>
      cases other
      exact if_neg shown
    · simp_all

theorem readStringAfter_control {c : Char} (control : c.toNat < 0x20) (fuel : Nat)
    (collected rest : List Char) :
    readStringAfter (fuel + 1) collected ('\\' :: 'u' :: '0' :: '0' :: hexDigit (c.toNat / 16) ::
      hexDigit (c.toNat % 16) :: rest) = readStringAfter fuel (c :: collected) rest := by
  have high := hexValue?_hexDigit (c.toNat / 16) (by omega)
  have low := hexValue?_hexDigit (c.toNat % 16) (by omega)
  have zero : hexValue? '0' = some 0 := by decide
  have unit : readUnit? ('0' :: '0' :: hexDigit (c.toNat / 16) :: hexDigit (c.toNat % 16) :: rest) =
      some (c.toNat, rest) := by
    simp only [readUnit?, zero, high, low, bind, Option.bind, pure]
    congr 2
    omega
  have escaped : readEscapedUnit? ('0' :: '0' :: hexDigit (c.toNat / 16) ::
      hexDigit (c.toNat % 16) :: rest) = some (c, rest) := by
    unfold readEscapedUnit?
    rw [unit]
    have below : ¬(0xDC00 ≤ c.toNat ∧ c.toNat ≤ 0xDFFF) := by omega
    have above : ¬(0xD800 ≤ c.toNat ∧ c.toNat ≤ 0xDBFF) := by omega
    simp [below, above]
  rw [readStringAfter, escaped]
  rfl

theorem readStringAfter_escapeChar (c : Char) (fuel : Nat) (collected rest : List Char) :
    readStringAfter (fuel + 1) collected (escapeChar c ++ rest) =
      readStringAfter fuel (c :: collected) rest := by
  by_cases quote : c = '"'
  · subst quote
    rfl
  by_cases slash : c = '\\'
  · subst slash
    rfl
  by_cases line : c = '\n'
  · subst line
    rfl
  by_cases back : c = '\r'
  · subst back
    rfl
  by_cases tab : c = '\t'
  · subst tab
    rfl
  by_cases bell : c = '\x08'
  · subst bell
    rfl
  by_cases feed : c = '\x0c'
  · subst feed
    rfl
  by_cases control : c.toNat < 0x20
  · simpa [escapeChar, quote, slash, line, back, tab, bell, feed, control] using
      readStringAfter_control control fuel collected rest
  · simpa [escapeChar, quote, slash, line, back, tab, bell, feed, control] using
      readStringAfter_plain quote slash control fuel collected rest

theorem readStringAfter_escaped (text : List Char) (fuel : Nat) (collected rest : List Char)
    (enough : text.length < fuel) :
    readStringAfter fuel collected (text.flatMap escapeChar ++ '"' :: rest) =
      some (String.ofList (collected.reverse ++ text), rest) := by
  induction text generalizing fuel collected with
  | nil =>
      obtain _ | fuel := fuel
      · exact absurd enough (Nat.not_lt_zero _)
      · simp [readStringAfter]
  | cons c later ih =>
      obtain _ | fuel := fuel
      · exact absurd enough (Nat.not_lt_zero _)
      · rw [List.flatMap_cons, List.append_assoc, readStringAfter_escapeChar,
          ih fuel (c :: collected) (Nat.lt_of_succ_lt_succ enough)]
        simp

theorem length_le_escaped (text : List Char) : text.length ≤ (text.flatMap escapeChar).length := by
  induction text with
  | nil => exact Nat.le_refl _
  | cons c later ih =>
      have some : 0 < (escapeChar c).length := by
        unfold escapeChar
        split_ifs <;> simp
      simp only [List.flatMap_cons, List.length_append, List.length_cons]
      omega

theorem toList_quoted (text : String) :
    (quoted text).toList = '"' :: (text.toList.flatMap escapeChar ++ ['"']) := by
  rw [quoted, String.toList_ofList]

theorem readString?_quoted (text : String) (rest : List Char) :
    readString? ((quoted text).toList ++ rest) = some (text, rest) := by
  have longer := length_le_escaped text.toList
  have read := readStringAfter_escaped text.toList
    ((text.toList.flatMap escapeChar ++ '"' :: rest).length + 1) [] rest (by
      rw [List.length_append]
      omega)
  rw [toList_quoted, List.cons_append, List.append_assoc, readString?]
  simpa using read

end Strings

section Numbers

def EndsNumber (rest : List Char) : Prop :=
  ∀ c, rest.head? = some c → isDigit c = false ∧ c ≠ '.' ∧ c ≠ 'e' ∧ c ≠ 'E'

theorem EndsNumber.nil : EndsNumber [] := nofun

theorem EndsNumber.comma (rest : List Char) : EndsNumber (',' :: rest) := by
  rintro _ ⟨⟩
  decide

theorem EndsNumber.bracket (rest : List Char) : EndsNumber (']' :: rest) := by
  rintro _ ⟨⟩
  decide

theorem EndsNumber.brace (rest : List Char) : EndsNumber ('\x7d' :: rest) := by
  rintro _ ⟨⟩
  decide

theorem split_toDigits (number : Nat) {rest : List Char} (ends : EndsNumber rest) :
    (Nat.toDigits 10 number ++ rest).takeWhile isDigit = Nat.toDigits 10 number ∧
      (Nat.toDigits 10 number ++ rest).dropWhile isDigit = rest := by
  have digits : ∀ c ∈ Nat.toDigits 10 number, isDigit c = true :=
    fun _ member => isDigit_of_mem_toDigits member
  rw [List.takeWhile_append_of_pos digits, List.dropWhile_append_of_pos digits]
  cases rest with
  | nil => simp
  | cons c later =>
      have other := (ends c rfl).1
      simp [other]

theorem readNumberText?_toDigits (negative : Bool) (number : Nat) {rest : List Char}
    (ends : EndsNumber rest) :
    readNumberText? ((if negative then ['-'] else []) ++ (Nat.toDigits 10 number ++ rest)) =
      some (⟨negative, Nat.toDigits 10 number, none, none⟩, rest) := by
  obtain ⟨taken, left⟩ := split_toDigits number ends
  obtain ⟨c, later, digits⟩ : ∃ c later, Nat.toDigits 10 number = c :: later :=
    List.exists_cons_of_length_pos Nat.length_toDigits_pos
  have digit : isDigit c = true := isDigit_of_mem_toDigits (digits ▸ List.mem_cons_self)
  have sign : c ≠ '-' := by
    rintro rfl
    cases digit
  have unsigned : (((if negative then ['-'] else []) ++ (Nat.toDigits 10 number ++ rest)).head? =
      some '-') = (negative = true) := by
    cases negative <;> simp [digits, sign]
  have behind : (if negative = true then
      ((if negative then ['-'] else []) ++ (Nat.toDigits 10 number ++ rest)).drop 1
      else (if negative then ['-'] else []) ++ (Nat.toDigits 10 number ++ rest)) =
      Nat.toDigits 10 number ++ rest := by
    cases negative <;> rfl
  have plain : ((Nat.toDigits 10 number).isEmpty || (decide ((Nat.toDigits 10 number).head? = some '0') &&
      decide ((Nat.toDigits 10 number).length > 1))) = false := by
    by_cases positive : 0 < number
    · have some : Nat.toDigits 10 number ≠ [] := List.ne_nil_of_length_pos Nat.length_toDigits_pos
      simp [some, head?_toDigits positive]
    · obtain rfl : number = 0 := by omega
      decide
  have fraction : readFractionPart? rest = some (none, rest) := by
    unfold readFractionPart?
    split
    next later => exact absurd rfl (ends '.' rfl).2.1
    next => rfl
  have exponent : readExponentPart? rest = some (none, rest) := by
    unfold readExponentPart?
    rw [if_neg]
    rintro (small | great)
    · exact (ends 'e' small).2.2.1 rfl
    · exact (ends 'E' great).2.2.2 rfl
  unfold readNumberText?
  simp only [unsigned, behind, taken, left, plain, fraction]
  simp [exponent]

theorem toList_toString (value : Int) : (toString value).toList =
    (if value < 0 then ['-'] else []) ++ Nat.toDigits 10 value.natAbs := by
  rw [Int.toString_eq_repr, Int.repr_eq_if]
  by_cases negative : value < 0
  · rw [if_neg (by omega), if_pos negative, String.toList_append, Nat.toList_repr]
    have size : (-value).toNat = value.natAbs := by omega
    rw [size]
    rfl
  · rw [if_pos (by omega), if_neg negative, Nat.toList_repr]
    have size : value.toNat = value.natAbs := by omega
    rw [size]
    rfl

theorem readNumber?_toString {value : Int} (least : leastI64 ≤ value) (below : value < wordBound)
    {rest : List Char} (ends : EndsNumber rest) :
    readNumber? ((toString value).toList ++ rest) = some (.int value, rest) := by
  have text := readNumberText?_toDigits (decide (value < 0)) value.natAbs ends
  have size : (if decide (value < 0) = true then -(value.natAbs : Int) else value.natAbs) = value := by
    split
    next negative =>
      have := of_decide_eq_true negative
      omega
    next positive =>
      have := of_decide_eq_false (Bool.not_eq_true _ ▸ positive)
      omega
  have whole : (⟨decide (value < 0), Nat.toDigits 10 value.natAbs, none, none⟩ : NumberText).value? =
      some (.int value) := by
    unfold NumberText.value?
    dsimp only
    rw [digitsValue_toDigits, size]
    have zero : ¬(value < 0 ∧ value = 0) := by omega
    simp [least, below]
    omega
  rw [toList_toString, List.append_assoc]
  simp only [decide_eq_true_eq] at text
  unfold readNumber?
  rw [text]
  simp [whole]

end Numbers

section Values

mutual
/-- A value without floats, whose numbers fit and which nests no deeper than can be read at a depth. -/
def Plain : Nat → Json → Prop
  | _, .null | _, .bool _ | _, .string _ => True
  | _, .int value => leastI64 ≤ value ∧ value < wordBound
  | _, .float _ => False
  | depth, .array items => depth + 1 < 128 ∧ PlainItems (depth + 1) items
  | depth, .object members => depth + 1 < 128 ∧ PlainMembers (depth + 1) members

def PlainItems : Nat → List Json → Prop
  | _, [] => True
  | depth, item :: rest => Plain depth item ∧ PlainItems depth rest

def PlainMembers : Nat → List (String × Json) → Prop
  | _, [] => True
  | depth, (_, value) :: rest => Plain depth value ∧ PlainMembers depth rest
end

def Shown (c : Char) : Prop :=
  (c = ' ' || c = '\n' || c = '\t' || c = '\r') = false

instance (c : Char) : Decidable (Shown c) :=
  inferInstanceAs (Decidable (_ = _))

theorem skipBlanks_shown {c : Char} (shown : Shown c) (rest : List Char) :
    skipBlanks (c :: rest) = c :: rest := by
  rw [skipBlanks, List.dropWhile_cons_of_neg]
  rw [Bool.not_eq_true]
  exact shown

theorem opens_toString (value : Int) :
    ∃ c later, (toString value).toList = c :: later ∧ (Shown c ∧ c ≠ ']') ∧ (c = '-' ∨ isDigit c = true) := by
  rw [toList_toString]
  by_cases negative : value < 0
  · exact ⟨'-', _, by rw [if_pos negative]; rfl, by decide, Or.inl rfl⟩
  · obtain ⟨c, later, digits⟩ : ∃ c later, Nat.toDigits 10 value.natAbs = c :: later :=
      List.exists_cons_of_length_pos Nat.length_toDigits_pos
    have digit : isDigit c = true := isDigit_of_mem_toDigits (digits ▸ List.mem_cons_self)
    refine ⟨c, later, by rw [if_neg negative, digits]; rfl, ?_, Or.inr digit⟩
    constructor
    · by_contra blank
      unfold Shown at blank
      simp only [Bool.not_eq_false, Bool.or_eq_true, decide_eq_true_eq] at blank
      rcases blank with ((rfl | rfl) | rfl) | rfl <;> cases digit
    · rintro rfl
      cases digit

theorem opens_text {depth : Nat} {value : Json} (plain : Plain depth value) :
    ∃ c later, value.text.toList = c :: later ∧ Shown c ∧ c ≠ ']' := by
  cases value with
  | null => exact ⟨'n', _, rfl, by decide⟩
  | bool value => cases value <;> exact ⟨_, _, rfl, by decide⟩
  | int value =>
      obtain ⟨c, later, same, opens, _⟩ := opens_toString value
      exact ⟨c, later, by rw [text, same], opens⟩
  | float value => exact absurd plain (by simp [Plain])
  | string content => exact ⟨'"', _, by rw [text, toList_quoted], by decide⟩
  | array items => exact ⟨'[', _, by rw [text, String.toList_append, String.toList_append]; rfl, by decide⟩
  | object members =>
      exact ⟨'\x7b', _, by rw [text, String.toList_append, String.toList_append]; rfl, by decide⟩

theorem readValue_number {c : Char} (shown : Shown c) (number : c = '-' ∨ isDigit c = true)
    (fuel depth : Nat) (rest : List Char) :
    readValue (fuel + 1) depth (c :: rest) = readNumber? (c :: rest) := by
  have other : ∀ d, isDigit d = false → d ≠ '-' → c ≠ d := by
    rintro d digit minus rfl
    rcases number with same | same
    · exact minus same
    · rw [digit] at same
      cases same
  rw [readValue, skipBlanks_shown shown]
  split
  next same => exact absurd (List.cons.inj same).1 (other '"' (by decide) (by decide))
  next same => exact absurd (List.cons.inj same).1 (other '[' (by decide) (by decide))
  next same => exact absurd (List.cons.inj same).1 (other '\x7b' (by decide) (by decide))
  next same => exact absurd (List.cons.inj same).1 (other 'n' (by decide) (by decide))
  next same => exact absurd (List.cons.inj same).1 (other 't' (by decide) (by decide))
  next same => exact absurd (List.cons.inj same).1 (other 'f' (by decide) (by decide))
  next => rfl

theorem skipBlanks_quoted (text : String) (rest : List Char) :
    skipBlanks ((quoted text).toList ++ rest) = (quoted text).toList ++ rest := by
  rw [toList_quoted, List.cons_append]
  exact skipBlanks_shown (by decide) _

theorem keyword?_text (word : String) (value : Json) (rest : List Char) :
    keyword? word value (word.toList ++ rest) = some (value, rest) := by
  have before : word.toList.isPrefixOf (word.toList ++ rest) = true := by simp
  rw [keyword?, if_pos before, ← String.length_toList, List.drop_left]

theorem toList_array (items : List Json) :
    (Json.array items).text.toList = '[' :: ((itemsText items).toList ++ [']']) := by
  rw [text, String.toList_append, String.toList_append]
  rfl

theorem toList_object (members : List (String × Json)) :
    (Json.object members).text.toList = '\x7b' :: ((membersText members).toList ++ ['\x7d']) := by
  rw [text, String.toList_append, String.toList_append]
  rfl

/-- With so much fuel, each text is read that is no longer than half of it. -/
structure Reads (fuel : Nat) : Prop where
  value : ∀ (value : Json) (depth : Nat) (rest : List Char), Plain depth value →
    2 * value.text.toList.length ≤ fuel → EndsNumber rest →
      readValue fuel depth (value.text.toList ++ rest) = some (value, rest)
  items : ∀ (item : Json) (later : List Json) (depth : Nat) (collected : List Json)
    (rest : List Char), Plain depth item → PlainItems depth later →
    2 * (itemsText (item :: later)).toList.length < fuel →
      readItems fuel depth collected ((itemsText (item :: later)).toList ++ ']' :: rest) =
        some (.array (collected.reverse ++ item :: later), rest)
  members : ∀ (name : String) (value : Json) (later : List (String × Json)) (depth : Nat)
    (collected : List (String × Json)) (rest : List Char), Plain depth value →
    PlainMembers depth later →
    2 * (membersText ((name, value) :: later)).toList.length < fuel →
      readMembers fuel depth collected
          ((membersText ((name, value) :: later)).toList ++ '\x7d' :: rest) =
        some (.object (collected.reverse ++ (name, value) :: later), rest)

variable {fuel : Nat}

theorem toList_itemsText (item next : Json) (later : List Json) :
    (itemsText (item :: next :: later)).toList =
      item.text.toList ++ ',' :: (itemsText (next :: later)).toList := by
  rw [itemsText, String.toList_append, String.toList_append, List.append_assoc]
  · rfl
  · exact nofun

theorem toList_member (name : String) (value : Json) :
    (membersText [(name, value)]).toList = (quoted name).toList ++ ':' :: value.text.toList := by
  rw [membersText, String.toList_append, String.toList_append, List.append_assoc]
  rfl

theorem toList_membersText (name : String) (value : Json) (next : String × Json)
    (later : List (String × Json)) : (membersText ((name, value) :: next :: later)).toList =
      (quoted name).toList ++ ':' ::
        (value.text.toList ++ ',' :: (membersText (next :: later)).toList) := by
  rw [membersText]
  · simp only [String.toList_append, List.append_assoc]
    rfl
  · exact nofun

theorem opens_itemsText {depth : Nat} {item : Json} (plain : Plain depth item) (later : List Json) :
    ∃ c more, (itemsText (item :: later)).toList = c :: more ∧ Shown c ∧ c ≠ ']' := by
  obtain ⟨c, more, same, opens⟩ := opens_text plain
  cases later with
  | nil => exact ⟨c, more, same, opens⟩
  | cons next later =>
      refine ⟨c, more ++ ',' :: (itemsText (next :: later)).toList, ?_, opens⟩
      rw [toList_itemsText, same, List.cons_append]

theorem opens_membersText (name : String) (value : Json) (later : List (String × Json)) :
    ∃ more, (membersText ((name, value) :: later)).toList = '"' :: more := by
  cases later with
  | nil => exact ⟨_, by rw [toList_member, toList_quoted, List.cons_append]⟩
  | cons next later => exact ⟨_, by rw [toList_membersText, toList_quoted, List.cons_append]⟩

theorem readValue_bracket {depth : Nat} (room : depth + 1 < 128) (rest : List Char) :
    readValue (fuel + 1) depth ('[' :: rest) =
      match skipBlanks rest with
      | ']' :: rest => some (.array [], rest)
      | rest => readItems fuel (depth + 1) [] rest := by
  rw [readValue, skipBlanks_shown (by decide)]
  exact if_neg (by omega)

theorem readValue_brace {depth : Nat} (room : depth + 1 < 128) (rest : List Char) :
    readValue (fuel + 1) depth ('\x7b' :: rest) =
      match skipBlanks rest with
      | '\x7d' :: rest => some (.object [], rest)
      | rest => readMembers fuel (depth + 1) [] rest := by
  rw [readValue, skipBlanks_shown (by decide)]
  exact if_neg (by omega)

theorem Reads.array (reads : Reads fuel) (items : List Json) (depth : Nat) (rest : List Char)
    (plain : Plain depth (.array items))
    (enough : 2 * (Json.array items).text.toList.length ≤ fuel + 1) :
    readValue (fuel + 1) depth ((Json.array items).text.toList ++ rest) = some (.array items, rest) := by
  obtain ⟨room, plainItems⟩ := plain
  rw [toList_array] at enough ⊢
  rw [List.cons_append, readValue_bracket room, List.append_assoc]
  cases items with
  | nil => rfl
  | cons item later =>
      obtain ⟨c, more, same, opens⟩ := opens_itemsText plainItems.1 later
      have read := reads.items item later (depth + 1) [] rest plainItems.1 plainItems.2 (by
        simp only [List.length_cons, List.length_append, List.length_nil] at enough
        omega)
      rw [same, List.cons_append] at read ⊢
      rw [skipBlanks_shown opens.1]
      split
      next closes => exact absurd (List.cons.inj closes).1 opens.2
      next => exact read

theorem Reads.object (reads : Reads fuel) (members : List (String × Json)) (depth : Nat)
    (rest : List Char) (plain : Plain depth (.object members))
    (enough : 2 * (Json.object members).text.toList.length ≤ fuel + 1) :
    readValue (fuel + 1) depth ((Json.object members).text.toList ++ rest) =
      some (.object members, rest) := by
  obtain ⟨room, plainMembers⟩ := plain
  rw [toList_object] at enough ⊢
  rw [List.cons_append, readValue_brace room, List.append_assoc]
  cases members with
  | nil => rfl
  | cons member later =>
      obtain ⟨name, value⟩ := member
      obtain ⟨more, same⟩ := opens_membersText name value later
      have read := reads.members name value later (depth + 1) [] rest plainMembers.1 plainMembers.2 (by
        simp only [List.length_cons, List.length_append, List.length_nil] at enough
        omega)
      rw [same, List.cons_append] at read ⊢
      rw [skipBlanks_shown (by decide)]
      exact read

theorem Reads.value_succ (reads : Reads fuel) (value : Json) (depth : Nat) (rest : List Char)
    (plain : Plain depth value) (enough : 2 * value.text.toList.length ≤ fuel + 1)
    (ends : EndsNumber rest) :
    readValue (fuel + 1) depth (value.text.toList ++ rest) = some (value, rest) := by
  cases value with
  | null =>
      have start : skipBlanks ("null".toList ++ rest) = 'n' :: ("ull".toList ++ rest) :=
        skipBlanks_shown (by decide) _
      rw [text, readValue, start]
      exact keyword?_text "null" .null rest
  | bool value =>
      cases value with
      | true =>
          have start : skipBlanks ("true".toList ++ rest) = 't' :: ("rue".toList ++ rest) :=
            skipBlanks_shown (by decide) _
          rw [text, if_pos rfl, readValue, start]
          exact keyword?_text "true" (.bool true) rest
      | false =>
          have start : skipBlanks ("false".toList ++ rest) = 'f' :: ("alse".toList ++ rest) :=
            skipBlanks_shown (by decide) _
          rw [text, if_neg Bool.false_ne_true, readValue, start]
          exact keyword?_text "false" (.bool false) rest
  | int value =>
      obtain ⟨c, later, same, opens, number⟩ := opens_toString value
      have read := readNumber?_toString plain.1 plain.2 ends
      rw [text, same, List.cons_append, readValue_number opens.1 number, ← List.cons_append, ← same]
      exact read
  | float value => exact absurd plain (by simp [Plain])
  | string content =>
      have read := readString?_quoted content rest
      rw [toList_quoted, List.cons_append] at read
      rw [text, toList_quoted, List.cons_append, readValue, skipBlanks_shown (by decide)]
      simp only [read]
      rfl
  | array items => exact reads.array items depth rest plain enough
  | object members => exact reads.object members depth rest plain enough

theorem Reads.items_succ (reads : Reads fuel) (item : Json) (later : List Json) (depth : Nat)
    (collected : List Json) (rest : List Char) (plain : Plain depth item)
    (plainLater : PlainItems depth later)
    (enough : 2 * (itemsText (item :: later)).toList.length < fuel + 1) :
    readItems (fuel + 1) depth collected ((itemsText (item :: later)).toList ++ ']' :: rest) =
      some (.array (collected.reverse ++ item :: later), rest) := by
  cases later with
  | nil =>
      rw [itemsText] at enough ⊢
      have read := reads.value item depth (']' :: rest) plain (by omega) (.bracket rest)
      rw [readItems, read]
      simp [skipBlanks_shown (show Shown ']' by decide)]
  | cons next later =>
      rw [toList_itemsText] at enough ⊢
      simp only [List.length_append, List.length_cons] at enough
      have read := reads.value item depth (',' :: ((itemsText (next :: later)).toList ++ ']' :: rest))
        plain (by omega) (.comma _)
      have more := reads.items next later depth (item :: collected) rest plainLater.1 plainLater.2
        (by omega)
      rw [List.append_assoc, List.cons_append, readItems, read]
      simp [skipBlanks_shown (show Shown ',' by decide), more]

theorem Reads.members_succ (reads : Reads fuel) (name : String) (value : Json)
    (later : List (String × Json)) (depth : Nat) (collected : List (String × Json))
    (rest : List Char) (plain : Plain depth value) (plainLater : PlainMembers depth later)
    (enough : 2 * (membersText ((name, value) :: later)).toList.length < fuel + 1) :
    readMembers (fuel + 1) depth collected
        ((membersText ((name, value) :: later)).toList ++ '\x7d' :: rest) =
      some (.object (collected.reverse ++ (name, value) :: later), rest) := by
  cases later with
  | nil =>
      rw [toList_member] at enough ⊢
      simp only [List.length_append, List.length_cons] at enough
      have start := skipBlanks_quoted name (':' :: (value.text.toList ++ '\x7d' :: rest))
      have label := readString?_quoted name (':' :: (value.text.toList ++ '\x7d' :: rest))
      have read := reads.value value depth ('\x7d' :: rest) plain (by omega) (.brace rest)
      rw [List.append_assoc, List.cons_append, readMembers, start, label]
      simp [skipBlanks_shown (show Shown ':' by decide), read,
        skipBlanks_shown (show Shown '\x7d' by decide)]
  | cons next later =>
      obtain ⟨other, nextValue⟩ := next
      rw [toList_membersText] at enough ⊢
      simp only [List.length_append, List.length_cons] at enough
      have start := skipBlanks_quoted name (':' :: (value.text.toList ++ ',' ::
        ((membersText ((other, nextValue) :: later)).toList ++ '\x7d' :: rest)))
      have label := readString?_quoted name (':' :: (value.text.toList ++ ',' ::
        ((membersText ((other, nextValue) :: later)).toList ++ '\x7d' :: rest)))
      have read := reads.value value depth (',' ::
        ((membersText ((other, nextValue) :: later)).toList ++ '\x7d' :: rest)) plain (by omega) (.comma _)
      have more := reads.members other nextValue later depth ((name, value) :: collected) rest
        plainLater.1 plainLater.2 (by omega)
      rw [List.append_assoc, List.cons_append, List.append_assoc, List.cons_append, readMembers, start,
        label]
      simp [skipBlanks_shown (show Shown ':' by decide), read,
        skipBlanks_shown (show Shown ',' by decide), more]

/-- By induction on the fuel, which each step of the reader takes one of. -/
theorem reads (fuel : Nat) : Reads fuel := by
  induction fuel with
  | zero =>
      constructor
      · intro value depth rest plain enough _
        obtain ⟨c, later, same, _⟩ := opens_text plain
        rw [same, List.length_cons] at enough
        omega
      · intro item later depth collected rest _ _ enough
        exact absurd enough (Nat.not_lt_zero _)
      · intro name value later depth collected rest _ _ enough
        exact absurd enough (Nat.not_lt_zero _)
  | succ fuel ih => exact ⟨ih.value_succ, ih.items_succ, ih.members_succ⟩

theorem ofText?_text {value : Json} (plain : Plain 0 value) : ofText? value.text = some value := by
  have read := (reads (2 * value.text.toList.length + 2)).value value 0 [] plain (by omega) .nil
  rw [List.append_nil] at read
  unfold ofText? read?
  rw [read]
  rfl

end Values

end LiveViews.Json
