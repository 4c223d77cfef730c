import LiveViews.Text.Blank
import LiveViews.Text.Numeral

/-!
Numerals. A text is read as a whole number exactly if it is one written out in decimal digits
(`readInteger?_eq_some`).
-/

namespace LiveViews.Text

/-- A whole number as it is written out: decimal digits, behind a sign or none. -/
inductive Numeral : List Char → Int → Prop where
  | unsigned {digits : List Char} : digits ≠ [] → (∀ c ∈ digits, isDigit c = true) →
      Numeral digits (Nat.ofDigitChars 10 digits 0)
  | positive {digits : List Char} : digits ≠ [] → (∀ c ∈ digits, isDigit c = true) →
      Numeral ('+' :: digits) (Nat.ofDigitChars 10 digits 0)
  | negative {digits : List Char} : digits ≠ [] → (∀ c ∈ digits, isDigit c = true) →
      Numeral ('-' :: digits) (-Nat.ofDigitChars 10 digits 0)

theorem digitsValue_eq (digits : List Char) : digitsValue digits = Nat.ofDigitChars 10 digits 0 := by
  simp [Nat.ofDigitChars, digitsValue, digitValue, Nat.mul_comm]

theorem readDigits?_eq_some {digits : List Char} {value : Nat} :
    readDigits? digits = some value ↔ digits ≠ [] ∧ (∀ c ∈ digits, isDigit c = true) ∧
      Nat.ofDigitChars 10 digits 0 = value := by
  unfold readDigits?
  rw [digitsValue_eq]
  constructor
  · intro read
    split at read
    · cases read
    next all =>
      have digital : digits ≠ [] ∧ ∀ c ∈ digits, isDigit c = true := by simpa using all
      exact ⟨digital.1, digital.2, Option.some.inj read⟩
  · rintro ⟨some, digital, rfl⟩
    rw [if_neg (by simpa [some] using digital)]

theorem readInteger?_eq_some {text : List Char} {value : Int} :
    readInteger? text = some value ↔ Numeral text value := by
  constructor
  · intro read
    unfold readInteger? at read
    split at read
    all_goals
      obtain ⟨_, lifted, rfl⟩ := Option.map_eq_some_iff.mp read
      obtain ⟨number, found, same⟩ := Option.bind_eq_some_iff.mp lifted
      obtain ⟨some, digital, rfl⟩ := readDigits?_eq_some.mp found
      cases same
    · exact .negative some digital
    · exact .positive some digital
    · exact .unsigned some digital
  · intro numeral
    cases numeral with
    | unsigned some digital =>
        have found := readDigits?_eq_some.mpr ⟨some, digital, rfl⟩
        unfold readInteger?
        split
        next => exact absurd (digital '-' List.mem_cons_self) (by decide)
        next => exact absurd (digital '+' List.mem_cons_self) (by decide)
        next => simp [found]
    | positive some digital =>
        have found := readDigits?_eq_some.mpr ⟨some, digital, rfl⟩
        simp [readInteger?, found]
    | negative some digital =>
        have found := readDigits?_eq_some.mpr ⟨some, digital, rfl⟩
        simp [readInteger?, found]

theorem mem_numeral {numeral : List Char} {number : Int} (read : readInteger? numeral = some number) :
    ∀ c ∈ numeral, isDigit c = true ∨ c = '-' ∨ c = '+' := by
  intro c member
  cases readInteger?_eq_some.mp read with
  | unsigned _ digital => exact Or.inl (digital c member)
  | positive _ digital =>
      rcases List.mem_cons.mp member with rfl | inside
      · exact Or.inr (Or.inr rfl)
      · exact Or.inl (digital c inside)
  | negative _ digital =>
      rcases List.mem_cons.mp member with rfl | inside
      · exact Or.inr (Or.inl rfl)
      · exact Or.inl (digital c inside)

theorem not_isBlank_digit {c : Char} (digit : isDigit c = true) : isBlank c = false := by
  simp only [isDigit, Bool.and_eq_true, decide_eq_true_eq, Char.le_def, UInt32.le_iff_toNat_le] at digit
  have bounds : 48 ≤ c.toNat ∧ c.toNat ≤ 57 := digit
  simp only [isBlank, inRanges, blankRanges, List.any_cons, List.any_nil, Bool.or_eq_false_iff,
    Bool.and_eq_false_iff, decide_eq_false_iff_not, and_true]
  omega

theorem not_isBlank_numeral {numeral : List Char} {number : Int}
    (read : readInteger? numeral = some number) : ∀ c ∈ numeral, isBlank c = false := by
  intro c member
  rcases mem_numeral read c member with digit | rfl | rfl
  · exact not_isBlank_digit digit
  · decide
  · decide

end LiveViews.Text
