import LiveViews.Proofs.Text.Trim
import LiveViews.Text.Case
import Mathlib.Data.List.Basic
import Mathlib.Data.List.Induction
import Mathlib.Data.Nat.ModEq

/-!
Lower case. Each character of a text is lowered to a block of its own (`lowers_lowercase`). What has
been lowered stays as it is when it is lowered again (`lowercase_of_lowered`), and the case of the
ASCII letters in a text makes no difference (`lowercase_map_toLower`).
-/

namespace LiveViews.Text

/-! ### The case of ASCII letters -/

theorem toLower_cases {motive : Char → Char → Prop} (same : ∀ c, c.toLower = c → motive c c)
    (capital : ∀ place < 26, motive (Char.ofNat (65 + place)) (Char.ofNat (65 + place)).toLower)
    (c : Char) : motive c c.toLower := by
  by_cases upper : 65 ≤ c.toNat ∧ c.toNat ≤ 90
  · have here := capital (c.toNat - 65) (by omega)
    rwa [Nat.add_sub_cancel' upper.1, Char.ofNat_toNat] at here
  · have unchanged : c.toLower = c := by
      unfold Char.toLower
      refine dif_neg fun between => upper ?_
      have least : 'A'.val.toNat ≤ c.val.toNat := UInt32.le_iff_toNat_le.mp between.1
      have most : c.val.toNat ≤ 'Z'.val.toNat := UInt32.le_iff_toNat_le.mp between.2
      exact ⟨least, most⟩
    rw [unchanged]
    exact same c unchanged

def letterless (range : Nat × Nat) : Bool :=
  Nat.blt range.2 65 || Nat.blt 90 range.1 && Nat.blt range.2 97 || Nat.blt 122 range.1

theorem inRanges_toLower {ranges : List (Nat × Nat)} (without : ranges.all letterless = true)
    (c : Char) : inRanges ranges c.toLower = inRanges ranges c := by
  refine toLower_cases (motive := fun c lower => inRanges ranges lower = inRanges ranges c)
    (fun _ _ => rfl) ?_ c
  have codes : ∀ place < 26, (Char.ofNat (65 + place)).toNat = 65 + place ∧
      (Char.ofNat (65 + place)).toLower.toNat = 97 + place := by
    decide
  have outside (letter : Char) (between : 65 ≤ letter.toNat ∧ letter.toNat ≤ 90 ∨
      97 ≤ letter.toNat ∧ letter.toNat ≤ 122) : inRanges ranges letter = false := by
    refine List.any_eq_false.mpr fun range member => ?_
    have apart := List.all_eq_true.mp without range member
    simp only [letterless, Bool.or_eq_true, Bool.and_eq_true, Nat.blt_eq] at apart
    simp only [Bool.and_eq_true, decide_eq_true_eq]
    omega
  intro place below
  obtain ⟨capital, small⟩ := codes place below
  rw [outside _ (Or.inr (by omega)), outside _ (Or.inl (by omega))]

theorem isBlank_toLower (c : Char) : isBlank c.toLower = isBlank c :=
  inRanges_toLower (by decide) c

set_option maxRecDepth 2000 in
theorem isCaseIgnorable_toLower (c : Char) : isCaseIgnorable c.toLower = isCaseIgnorable c :=
  inRanges_toLower (by decide) c

theorem isCased_toLower (c : Char) : isCased c.toLower = isCased c := by
  refine toLower_cases (motive := fun c lower => isCased lower = isCased c) (fun _ _ => rfl) ?_ c
  decide

theorem lowerChar_toLower (c : Char) : lowerChar c.toLower = lowerChar c := by
  refine toLower_cases (motive := fun c lower => lowerChar lower = lowerChar c) (fun _ _ => rfl) ?_ c
  decide

theorem toLower_eq_sigma (c : Char) : c.toLower = 'Σ' ↔ c = 'Σ' := by
  refine toLower_cases (motive := fun c lower => lower = 'Σ' ↔ c = 'Σ') (fun _ _ => Iff.rfl) ?_ c
  decide

theorem meetsCased_map_toLower (text : List Char) :
    meetsCased (text.map Char.toLower) = meetsCased text := by
  have ignorable : isCaseIgnorable ∘ Char.toLower = isCaseIgnorable :=
    funext isCaseIgnorable_toLower
  unfold meetsCased
  rw [List.dropWhile_map, ignorable]
  cases text.dropWhile isCaseIgnorable with
  | nil => rfl
  | cons c rest => exact isCased_toLower c

theorem lowerAfter_map_toLower (before text : List Char) :
    lowerAfter (before.map Char.toLower) (text.map Char.toLower) = lowerAfter before text := by
  induction text generalizing before with
  | nil => rfl
  | cons c rest ih =>
      have later := ih (c :: before)
      rw [List.map_cons] at later ⊢
      unfold lowerAfter
      simp only [toLower_eq_sigma, meetsCased_map_toLower, lowerChar_toLower, later]

theorem lowercase_map_toLower (text : List Char) :
    lowercase (text.map Char.toLower) = lowercase text :=
  lowerAfter_map_toLower [] text

/-! ### What the runs of the table move where -/

namespace CaseRun

variable {run other : CaseRun} {code image low high : Nat}

theorem image?_eq_some : run.image? code = some image ↔
    (run.first ≤ code ∧ code ≤ run.last ∧ (code - run.first) % run.step = 0) ∧
      ((code : Int) + run.offset).toNat = image := by
  unfold image?
  split
  next inside => simp [inside]
  next outside => simp [outside]

def firstImage (run : CaseRun) : Nat :=
  ((run.first : Int) + run.offset).toNat

def lastImage (run : CaseRun) : Nat :=
  ((run.last : Int) + run.offset).toNat

def lands (run : CaseRun) : Bool :=
  0 ≤ run.first + run.offset && (Nat.blt run.lastImage 0xD800 ||
    Nat.blt 0xDFFF run.firstImage && Nat.blt run.lastImage 0x110000)

def avoids (run : CaseRun) (low high : Nat) : Bool :=
  Nat.blt run.lastImage low || Nat.blt high run.firstImage

/-- No image of the run is moved by the other: it lies before it, behind it, or between its steps. -/
def misses (run other : CaseRun) : Bool :=
  run.avoids other.first other.last || (run.first == run.last || run.step % other.step == 0) &&
    run.firstImage % other.step != other.first % other.step

theorem image_eq (lands : run.lands = true) (moved : run.image? code = some image) :
    (image : Int) = code + run.offset ∧ (run.firstImage : Int) = run.first + run.offset ∧
      (run.lastImage : Int) = run.last + run.offset := by
  obtain ⟨⟨least, most, _⟩, _⟩ := image?_eq_some.mp moved
  simp only [CaseRun.lands, Bool.and_eq_true, decide_eq_true_eq] at lands
  unfold firstImage lastImage
  omega

theorem toNat_image (lands : run.lands = true) (moved : run.image? code = some image) :
    (Char.ofNat image).toNat = image := by
  obtain ⟨⟨least, most, _⟩, _⟩ := image?_eq_some.mp moved
  obtain ⟨here, first, last⟩ := image_eq lands moved
  have valid : image.isValidChar := by
    unfold Nat.isValidChar
    simp only [CaseRun.lands, Bool.and_eq_true, Bool.or_eq_true, Nat.blt_eq] at lands
    omega
  unfold Char.ofNat
  rw [dif_pos valid]
  rfl

theorem image_outside (avoids : run.avoids low high = true) (lands : run.lands = true)
    (moved : run.image? code = some image) : image < low ∨ high < image := by
  obtain ⟨⟨least, most, _⟩, _⟩ := image?_eq_some.mp moved
  obtain ⟨here, first, last⟩ := image_eq lands moved
  simp only [CaseRun.avoids, Bool.or_eq_true, Nat.blt_eq] at avoids
  omega

theorem image?_image (misses : run.misses other = true) (lands : run.lands = true)
    (moved : run.image? code = some image) : other.image? image = none := by
  rw [Option.eq_none_iff_forall_ne_some]
  intro again movedAgain
  obtain ⟨⟨otherLeast, otherMost, otherStep⟩, _⟩ := image?_eq_some.mp movedAgain
  simp only [CaseRun.misses, Bool.or_eq_true, Bool.and_eq_true, beq_iff_eq, bne_iff_ne] at misses
  rcases misses with avoids | ⟨steps, between⟩
  · have outside := image_outside avoids lands moved
    omega
  · obtain ⟨⟨least, most, step⟩, _⟩ := image?_eq_some.mp moved
    obtain ⟨here, first, last⟩ := image_eq lands moved
    have inner : other.step ∣ image - run.firstImage := by
      have walked : image - run.firstImage = code - run.first := by omega
      rw [walked]
      rcases steps with single | multiple
      · have only : code - run.first = 0 := by omega
        rw [only]
        exact Nat.dvd_zero _
      · exact Nat.dvd_trans (Nat.dvd_of_mod_eq_zero multiple) (Nat.dvd_of_mod_eq_zero step)
    have firstLeast : run.firstImage ≤ image := by omega
    have fromFirst : image % other.step = run.firstImage % other.step :=
      ((Nat.modEq_iff_dvd' firstLeast).mpr inner).symm
    have fromOther : image % other.step = other.first % other.step :=
      ((Nat.modEq_iff_dvd' otherLeast).mpr (Nat.dvd_of_mod_eq_zero otherStep)).symm
    exact between (fromFirst.symm.trans fromOther)

/-- The run moves none of these codes, and moves no other code there. -/
def spares (run : CaseRun) (range : Nat × Nat) : Bool :=
  (Nat.blt run.last range.1 || Nat.blt range.2 run.first) && run.avoids range.1 range.2

end CaseRun

theorem lowerRuns_lands : lowerRuns.all CaseRun.lands = true := by
  decide

theorem lowerRuns_settle : (lowerRuns.all fun run => (lowerRuns.all fun other => run.misses other) &&
    blankRanges.all fun range => run.spares range) = true := by
  decide +kernel

theorem misses_of_listed {run other : CaseRun} (listed : run ∈ lowerRuns)
    (otherListed : other ∈ lowerRuns) : run.misses other = true :=
  List.all_eq_true.mp (Bool.and_eq_true_iff.mp
    (List.all_eq_true.mp lowerRuns_settle run listed)).1 other otherListed

theorem spares_of_listed {run : CaseRun} {range : Nat × Nat} (listed : run ∈ lowerRuns)
    (blank : range ∈ blankRanges) : run.spares range = true :=
  List.all_eq_true.mp (Bool.and_eq_true_iff.mp
    (List.all_eq_true.mp lowerRuns_settle run listed)).2 range blank

theorem lowerRuns_ascii : (lowerRuns.all fun run => Nat.blt run.last 128 ||
    Nat.blt 127 run.firstImage || run.firstImage == 107 && run.lastImage == 107) = true := by
  decide

theorem lowerRuns_avoids :
    (lowerRuns.all fun run => run.avoids 0 96 && run.avoids 0x130 0x130) = true := by
  decide

/-! ### The lower case of one character -/

theorem lowerChar_cases (c : Char) : lowerChar c = [c] ∨
    (∃ run ∈ lowerRuns, ∃ image, run.image? c.toNat = some image ∧
      lowerChar c = [Char.ofNat image]) ∨
    c = 'İ' ∧ lowerChar c = ['i', '\u0307'] := by
  by_cases ascii : c.toNat < 128
  · have lowered : lowerChar c = [c.toLower] := if_pos ascii
    rw [lowered]
    refine toLower_cases (motive := fun c lower => [lower] = [c] ∨
      (∃ run ∈ lowerRuns, ∃ image, run.image? c.toNat = some image ∧ [lower] = [Char.ofNat image]) ∨
      c = 'İ' ∧ [lower] = ['i', '\u0307']) (fun _ _ => Or.inl rfl) ?_ c
    intro place below
    refine Or.inr (Or.inl ⟨⟨0x41, 0x5A, 1, 32⟩, List.mem_cons_self, 65 + place + 32, ?_⟩)
    revert place
    decide
  · have lowered : lowerChar c = otherCase lowerSequences lowerRuns c := if_neg ascii
    rw [lowered]
    unfold otherCase
    by_cases dotted : c.toNat = 0x130
    · have same : c = 'İ' := Char.toNat_inj.mp dotted
      rw [same]
      exact Or.inr (Or.inr ⟨rfl, rfl⟩)
    · have plain : lowerSequences.find? (fun entry => entry.1 = c.toNat) = none := by
        simpa [lowerSequences] using fun same => dotted same.symm
      rw [plain]
      dsimp only
      cases moved : lowerRuns.findSome? fun run => run.image? c.toNat with
      | none => exact Or.inl rfl
      | some image =>
          obtain ⟨run, member, here⟩ := List.exists_of_findSome?_eq_some moved
          exact Or.inr (Or.inl ⟨run, member, image, here, rfl⟩)

def Lowered (c : Char) : Prop :=
  lowerChar c = [c]

theorem lowered_of_mem_lowerChar {c lower : Char} (member : lower ∈ lowerChar c) :
    Lowered lower := by
  rcases lowerChar_cases c with same | ⟨run, listed, image, moved, same⟩ | ⟨_, same⟩
  · rw [same, List.mem_singleton] at member
    rwa [member]
  · rw [same, List.mem_singleton] at member
    have lands := List.all_eq_true.mp lowerRuns_lands run listed
    have code : lower.toNat = image := by rw [member, CaseRun.toNat_image lands moved]
    rcases lowerChar_cases lower with fixed | ⟨other, otherListed, again, movedAgain, _⟩ | ⟨dotted, _⟩
    · exact fixed
    · rw [code, CaseRun.image?_image (misses_of_listed listed otherListed) lands moved]
        at movedAgain
      cases movedAgain
    · have avoids := (Bool.and_eq_true_iff.mp (List.all_eq_true.mp lowerRuns_avoids run listed)).2
      have outside := CaseRun.image_outside avoids lands moved
      rw [← code, dotted] at outside
      simp at outside
  · rw [same] at member
    unfold Lowered
    rcases List.mem_pair.mp member with rfl | rfl <;> decide

theorem lowerChar_of_blank {c : Char} (blank : isBlank c = true) : lowerChar c = [c] := by
  obtain ⟨range, inside, within⟩ := List.any_eq_true.mp blank
  simp only [Bool.and_eq_true, decide_eq_true_eq] at within
  rcases lowerChar_cases c with same | ⟨run, listed, image, moved, _⟩ | ⟨dotted, _⟩
  · exact same
  · have spares := spares_of_listed listed inside
    simp only [CaseRun.spares, Bool.and_eq_true, Bool.or_eq_true, Nat.blt_eq] at spares
    obtain ⟨⟨least, most, _⟩, _⟩ := CaseRun.image?_eq_some.mp moved
    omega
  · exact absurd (dotted ▸ blank) (by decide)

theorem eq_of_mem_lowerChar {c lower : Char} (member : lower ∈ lowerChar c)
    (fixed : isBlank lower = true ∨ lower.toNat < 97) : lower = c := by
  rcases lowerChar_cases c with same | ⟨run, listed, image, moved, same⟩ | ⟨_, same⟩
  · rw [same] at member
    exact List.mem_singleton.mp member
  · rw [same, List.mem_singleton] at member
    have lands := List.all_eq_true.mp lowerRuns_lands run listed
    have code : lower.toNat = image := by rw [member, CaseRun.toNat_image lands moved]
    rcases fixed with blank | sign
    · obtain ⟨range, inside, within⟩ := List.any_eq_true.mp blank
      simp only [Bool.and_eq_true, decide_eq_true_eq] at within
      have spares := spares_of_listed listed inside
      have outside := CaseRun.image_outside (Bool.and_eq_true_iff.mp spares).2 lands moved
      omega
    · have avoids := (Bool.and_eq_true_iff.mp (List.all_eq_true.mp lowerRuns_avoids run listed)).1
      have outside := CaseRun.image_outside avoids lands moved
      omega
  · rw [same] at member
    refine absurd fixed ?_
    rcases List.mem_pair.mp member with rfl | rfl <;> decide

theorem lowerChar_eq_of_getLast? {c lower : Char} (ends : (lowerChar c).getLast? = some lower)
    (ascii : lower.toNat < 128) (other : lower ≠ 'k') : c.toLower = lower ∧ lowerChar c = [lower] := by
  have single : c.toNat < 128 → c.toLower = lower ∧ lowerChar c = [lower] := by
    intro low
    have lowered : lowerChar c = [c.toLower] := if_pos low
    rw [lowered, List.getLast?_singleton, Option.some.injEq] at ends
    exact ⟨ends, by rw [lowered, ends]⟩
  rcases lowerChar_cases c with same | ⟨run, listed, image, moved, same⟩ | ⟨_, same⟩
  · rw [same, List.getLast?_singleton, Option.some.injEq] at ends
    exact single (ends ▸ ascii)
  · rw [same, List.getLast?_singleton, Option.some.injEq] at ends
    have lands := List.all_eq_true.mp lowerRuns_lands run listed
    have code : lower.toNat = image := by rw [← ends, CaseRun.toNat_image lands moved]
    have table := List.all_eq_true.mp lowerRuns_ascii run listed
    simp only [Bool.or_eq_true, Bool.and_eq_true, Nat.blt_eq, beq_iff_eq] at table
    obtain ⟨⟨least, most, _⟩, _⟩ := CaseRun.image?_eq_some.mp moved
    obtain ⟨here, first, last⟩ := CaseRun.image_eq lands moved
    have notKelvin : lower.toNat ≠ 107 := fun kelvin => other (Char.toNat_inj.mp kelvin)
    exact single (by omega)
  · rw [same] at ends
    exact absurd ascii (Option.some.inj ends ▸ by decide)

/-! ### The lower case of a text -/

/-- What a character of a text can become: at the end of a word, a sigma has a form of its own. -/
inductive LowersChar (c : Char) : List Char → Prop where
  | plain : LowersChar c (lowerChar c)
  | final : c = 'Σ' → LowersChar c ['ς']

inductive Lowers : List Char → List Char → Prop where
  | nil : Lowers [] []
  | cons {c : Char} {block rest lower : List Char} : LowersChar c block → Lowers rest lower →
      Lowers (c :: rest) (block ++ lower)

theorem lowers_lowerAfter (before text : List Char) : Lowers text (lowerAfter before text) := by
  induction text generalizing before with
  | nil => exact .nil
  | cons c rest ih =>
      unfold lowerAfter
      dsimp only
      refine .cons ?_ (ih (c :: before))
      split
      next sigma =>
        split
        · exact .final sigma
        · have medial : lowerChar 'Σ' = ['σ'] := by decide
          rw [← medial, sigma]
          exact .plain
      next => exact .plain

theorem lowers_lowercase (text : List Char) : Lowers text (lowercase text) :=
  lowers_lowerAfter [] text

namespace LowersChar

variable {c lower : Char} {block : List Char}

theorem lowered (lowers : LowersChar c block) (member : lower ∈ block) : Lowered lower := by
  cases lowers with
  | plain => exact lowered_of_mem_lowerChar member
  | final =>
      rw [List.mem_singleton.mp member]
      show lowerChar 'ς' = ['ς']
      decide

theorem eq_of_mem (lowers : LowersChar c block) (member : lower ∈ block)
    (fixed : isBlank lower = true ∨ lower.toNat < 97) : lower = c := by
  cases lowers with
  | plain => exact eq_of_mem_lowerChar member fixed
  | final =>
      have none : ¬(isBlank 'ς' = true ∨ 'ς'.toNat < 97) := by decide
      exact absurd (List.mem_singleton.mp member ▸ fixed) none

theorem ne_nil (lowers : LowersChar c block) : block ≠ [] := by
  cases lowers with
  | plain =>
      rcases lowerChar_cases c with same | ⟨_, _, image, _, same⟩ | ⟨_, same⟩ <;>
        exact same ▸ List.cons_ne_nil _ _
  | final => exact List.cons_ne_nil _ _

theorem eq_singleton_of_blank (lowers : LowersChar c block) (blank : isBlank c = true) :
    block = [c] := by
  cases lowers with
  | plain => exact lowerChar_of_blank blank
  | final sigma => exact absurd (sigma ▸ blank) (by decide)

theorem eq_of_getLast? (lowers : LowersChar c block) (ends : block.getLast? = some lower)
    (ascii : lower.toNat < 128) (other : lower ≠ 'k') : c.toLower = lower ∧ block = [lower] := by
  cases lowers with
  | plain => exact lowerChar_eq_of_getLast? ends ascii other
  | final => exact absurd ascii (Option.some.inj ends ▸ by decide)

end LowersChar

namespace Lowers

variable {text lower : List Char}

theorem exists_of_mem (lowers : Lowers text lower) {letter : Char} (member : letter ∈ lower) :
    ∃ c ∈ text, ∃ block, LowersChar c block ∧ letter ∈ block := by
  induction lowers with
  | nil => cases member
  | @cons c block rest _ first _ ih =>
      rcases List.mem_append.mp member with here | later
      · exact ⟨c, List.mem_cons_self, block, first, here⟩
      · obtain ⟨other, known, found⟩ := ih later
        exact ⟨other, List.mem_cons_of_mem _ known, found⟩

theorem concat {front : List Char} {c : Char} (lowers : Lowers (front ++ [c]) lower) :
    ∃ before block, Lowers front before ∧ LowersChar c block ∧ lower = before ++ block := by
  induction front generalizing lower with
  | nil =>
      cases lowers with
      | @cons _ block _ _ last rest =>
          cases rest
          exact ⟨[], block, .nil, last, List.append_nil block⟩
  | cons first more ih =>
      cases lowers with
      | @cons _ block _ _ here rest =>
          obtain ⟨before, last, lowersMore, lowersLast, rfl⟩ := ih rest
          exact ⟨block ++ before, last, .cons here lowersMore, lowersLast,
            (List.append_assoc _ _ _).symm⟩

theorem endsVisibly (lowers : Lowers text lower) :
    Text.endsVisibly lower = Text.endsVisibly text := by
  unfold Text.endsVisibly
  rcases List.eq_nil_or_concat' text with rfl | ⟨front, c, rfl⟩
  · cases lowers
    rfl
  · obtain ⟨before, block, _, last, rfl⟩ := lowers.concat
    have ends : (before ++ block).getLast? = some (block.getLast last.ne_nil) := by
      rw [List.getLast?_append_of_ne_nil _ last.ne_nil, List.getLast?_eq_some_getLast last.ne_nil]
    rw [ends, List.getLast?_concat, Option.all_some, Option.all_some, Bool.not_inj_iff,
      Bool.eq_iff_iff]
    constructor
    · intro blank
      rwa [← last.eq_of_mem (List.getLast_mem last.ne_nil) (Or.inl blank)]
    · intro blank
      have single := last.eq_singleton_of_blank blank
      simp [single, blank]

theorem suffix (lowers : Lowers text lower) {letters : List Char} (ends : letters <:+ lower)
    (ascii : ∀ letter ∈ letters, letter.toNat < 128 ∧ letter ≠ 'k') :
    letters <:+ text.map Char.toLower := by
  -- On the letters from behind: the last of them is the whole lower case of the last character.
  induction letters using List.reverseRecOn generalizing text lower with
  | nil => exact List.nil_suffix
  | append_singleton front letter ih =>
      rcases List.eq_nil_or_concat' text with rfl | ⟨first, c, rfl⟩
      · cases lowers
        exact absurd (List.suffix_nil.mp ends) (by simp)
      · obtain ⟨before, block, rest, last, rfl⟩ := lowers.concat
        have known := ascii letter (by simp)
        obtain ⟨more, whole⟩ := ends
        have final : block.getLast? = some letter := by
          have both := congrArg List.getLast? whole
          rwa [← List.append_assoc, List.getLast?_concat,
            List.getLast?_append_of_ne_nil _ last.ne_nil, eq_comm] at both
        obtain ⟨same, single⟩ := last.eq_of_getLast? final known.1 known.2
        rw [single, ← List.append_assoc] at whole
        have inner : front <:+ before := ⟨more, List.append_cancel_right whole⟩
        obtain ⟨rest', joined⟩ := ih rest inner fun other member =>
          ascii other (List.mem_append_left _ member)
        exact ⟨rest', by rw [List.map_append, List.map_singleton, same, ← joined, List.append_assoc]⟩

end Lowers

theorem lowered_of_mem {text : List Char} {letter : Char} (member : letter ∈ lowercase text) :
    Lowered letter := by
  obtain ⟨_, _, block, lowers, inside⟩ := (lowers_lowercase text).exists_of_mem member
  exact lowers.lowered inside

theorem endsVisibly_lowercase (text : List Char) :
    endsVisibly (lowercase text) = endsVisibly text :=
  (lowers_lowercase text).endsVisibly

theorem Lowered.toLower_eq {c : Char} (lowered : Lowered c) : c.toLower = c := by
  refine toLower_cases (motive := fun c lower => Lowered c → lower = c) (fun _ _ _ => rfl) ?_ c lowered
  unfold Lowered
  decide

theorem not_lowered_sigma : ¬Lowered 'Σ' := by
  show lowerChar 'Σ' ≠ ['Σ']
  decide

theorem lowerAfter_of_lowered {text : List Char} (lowered : ∀ c ∈ text, Lowered c)
    (before : List Char) : lowerAfter before text = text := by
  induction text generalizing before with
  | nil => rfl
  | cons c rest ih =>
      have here : lowerChar c = [c] := lowered c List.mem_cons_self
      have other : c ≠ 'Σ' := fun sigma => not_lowered_sigma (sigma ▸ here)
      have later := ih (fun letter member => lowered letter (List.mem_cons_of_mem _ member)) (c :: before)
      unfold lowerAfter
      dsimp only
      rw [if_neg other, here, later, List.singleton_append]

theorem lowercase_of_lowered {text : List Char} (lowered : ∀ c ∈ text, Lowered c) :
    lowercase text = text :=
  lowerAfter_of_lowered lowered []

/-! ### A sign in front -/

theorem meetsCased_concat {c : Char} (ends : isCaseIgnorable c = false) (sign : isCased c = false)
    (before : List Char) : meetsCased (before ++ [c]) = meetsCased before := by
  unfold meetsCased
  rw [List.dropWhile_append]
  cases kept : before.dropWhile isCaseIgnorable with
  | nil => simp [ends, sign]
  | cons first rest => rfl

theorem lowerAfter_concat {c : Char} (ends : isCaseIgnorable c = false) (sign : isCased c = false)
    (before text : List Char) : lowerAfter (before ++ [c]) text = lowerAfter before text := by
  induction text generalizing before with
  | nil => rfl
  | cons first rest ih =>
      have later := ih (first :: before)
      rw [List.cons_append] at later
      unfold lowerAfter
      simp only [meetsCased_concat ends sign, later]

theorem lowercase_slash (text : List Char) : lowercase ('/' :: text) = '/' :: lowercase text := by
  have ends : isCaseIgnorable '/' = false := by decide +kernel
  have sign : isCased '/' = false := by decide
  have apart := lowerAfter_concat ends sign [] text
  rw [List.nil_append] at apart
  have plain : lowerChar '/' = ['/'] := by decide
  show (if '/' = 'Σ' then _ else lowerChar '/') ++ lowerAfter ['/'] text = _
  rw [if_neg (by decide), plain, apart]
  rfl

end LiveViews.Text
