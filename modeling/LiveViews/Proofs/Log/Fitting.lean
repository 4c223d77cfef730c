import LiveViews.Log.Console
import LiveViews.Proofs.Text.Slices

/-!
Log lines on a terminal. Of a line that has room for its mark as much is written as fits into the width,
in whole characters (`writes_longest_beginning`).
-/

namespace LiveViews.Log

open LiveViews.Text

theorem size_mark (part : String) :
    (mark false part ++ " ").utf8ByteSize = markLength part.utf8ByteSize := by
  unfold mark markLength
  simp only [Bool.false_eq_true, if_false, String.utf8ByteSize_append]
  have sizes : "[".utf8ByteSize = 1 ∧ "]".utf8ByteSize = 1 ∧ " ".utf8ByteSize = 1 := by decide
  omega

theorem fitted_message {line : LogLine} (single : '\n' ∉ line.message.toList) (width : Nat) :
    LongestWithin (width - markLength line.part.utf8ByteSize) line.message
      (fitted width line).message := by
  have oneLine : line.message.toList.contains '\n' = false := by
    rwa [List.contains_eq_mem, decide_eq_false_iff_not]
  unfold fitted
  simp only [oneLine, Bool.false_eq_true, if_false, byteLength_toList]
  exact longestWithin_takeBytes _ _

/-- A text is cut, between two of its characters, to the longest beginning within the limit. A line with
a message of one line and room for its mark is written with the longest beginning that the width has
room for, which ends between two characters. -/
theorem writes_longest_beginning :
    (∀ (limit : Nat) (text : String),
      cut? limit text = some (String.ofList (takeBytes limit text.toList)) ∧
      LongestWithin limit text (String.ofList (takeBytes limit text.toList))) ∧
    ∀ (width : Nat) (coloured : Bool) (line : LogLine), '\n' ∉ line.message.toList →
      line.part.utf8ByteSize + 3 ≤ width → ∃ kept,
        writtenAt width coloured line =
          escape ++ "K" ++ mark coloured line.part ++ " " ++ kept ++ "\n" ∧
        cut? (width - markLength line.part.utf8ByteSize) line.message = some kept ∧
        LongestWithin width (mark false line.part ++ " " ++ line.message)
          (mark false line.part ++ " " ++ kept) ∧
        isBoundary (mark false line.part ++ " " ++ line.message)
          (mark false line.part ++ " " ++ kept).utf8ByteSize = true := by
  refine ⟨fun limit text => ⟨cut?_eq limit text, longestWithin_takeBytes limit text⟩, ?_⟩
  intro width coloured line single room
  have message := fitted_message single width
  have whole := message.append (mark false line.part ++ " ")
  have size : (mark false line.part ++ " ").utf8ByteSize +
      (width - markLength line.part.utf8ByteSize) = width := by
    rw [size_mark]
    exact Nat.add_sub_cancel' room
  rw [size] at whole
  refine ⟨(fitted width line).message, rfl, ?_, whole, whole.isBoundary⟩
  rw [cut?_eq, message.unique (longestWithin_takeBytes _ _)]

/-- The limit of the cut lies inside of the second character. -/
theorem writes_longest_beginning_store :
    '\n' ∉ "é页面".toList ∧ "store".utf8ByteSize + 3 ≤ 12 ∧ cut? 4 "é页面" = some "é" ∧
    writtenAt 12 false ⟨"store", "é页面"⟩ = "\x1b[K[store] é\n" ∧
    LongestWithin 12 "[store] é页面" "[store] é" := by
  have single : '\n' ∉ "é页面".toList := by decide
  have room : "store".utf8ByteSize + 3 ≤ 12 := by decide
  obtain ⟨cuts, writes⟩ := writes_longest_beginning
  have short : cut? 4 "é页面" = some "é" := (cuts 4 "é页面").1
  obtain ⟨kept, text, cut, longest, _⟩ := writes 12 false ⟨"store", "é页面"⟩ single room
  obtain rfl : "é" = kept := Option.some_inj.mp (short.symm.trans cut)
  exact ⟨single, room, short, text, longest⟩

end LiveViews.Log
