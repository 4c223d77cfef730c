import LiveViews.Text.Percent

/-!
Percent-decoding on both sides of a question mark. The mark takes part in no escape and in no longer
character, so that it cuts a text where it cuts the bytes (`percentDecode?_mark`).
-/

namespace LiveViews.Text

theorem toList_loop {bytes : ByteArray} {index : Nat} {rest : List UInt8}
    (remain : bytes.data.toList.drop index = rest) (before : List UInt8) :
    ByteArray.toList.loop bytes index before = before.reverse ++ rest := by
  induction rest generalizing index before with
  | nil =>
      have outside : ¬index < bytes.size := by
        simpa using List.drop_eq_nil_iff.mp remain
      rw [ByteArray.toList.loop, if_neg outside, List.append_nil]
  | cons byte rest ih =>
      have inside : index < bytes.data.toList.length := by
        apply Nat.lt_of_not_le
        intro outside
        rw [List.drop_eq_nil_of_le outside] at remain
        cases remain
      rw [List.drop_eq_getElem_cons inside] at remain
      obtain ⟨first, later⟩ := List.cons.inj remain
      have here : bytes.get! index = byte := by
        rw [← first]
        simpa [ByteArray.get!] using getElem!_pos bytes.data index inside
      rw [ByteArray.toList.loop, if_pos (by simpa using inside), here, ih later, List.reverse_cons,
        List.append_assoc, List.singleton_append]

theorem toList_data (bytes : ByteArray) : bytes.toList = bytes.data.toList := by
  simp [ByteArray.toList, toList_loop rfl]

theorem toList_toUTF8 (text : String) :
    text.toUTF8.toList = text.toList.flatMap String.utf8EncodeChar := by
  rw [toList_data, String.toUTF8_eq_toByteArray, ← String.utf8Encode_toList, List.utf8Encode,
    List.toList_data_toByteArray]

theorem toList_toUTF8_append (left right : String) :
    (left ++ right).toUTF8.toList = left.toUTF8.toList ++ right.toUTF8.toList := by
  simp only [toList_toUTF8, String.toList_append, List.flatMap_append]

theorem fromUTF8?_eq_some {bytes : List UInt8} {text : String} :
    String.fromUTF8? ⟨bytes.toArray⟩ = some text ↔ text.toUTF8.toList = bytes := by
  rw [toList_data]
  unfold String.fromUTF8?
  constructor
  · intro found
    split at found
    · cases found
      rfl
    · cases found
  · intro same
    have whole : (⟨bytes.toArray⟩ : ByteArray) = text.toByteArray := by
      rw [← same]
      rfl
    rw [whole, dif_pos text.isValidUTF8]
    rfl

theorem percentDecode?_eq_some {text decoded : String} :
    percentDecode? text = some decoded ↔
      decoded.toUTF8.toList = percentDecodeBytes text.toUTF8.toList :=
  fromUTF8?_eq_some

theorem eq_mark_of_mem {c : Char} (member : 63 ∈ String.utf8EncodeChar c) : c = '?' := by
  obtain ⟨index, inside, here⟩ := List.mem_iff_getElem.mp member
  have begins : (String.utf8EncodeChar c)[index].IsUTF8FirstByte := by
    rw [here]
    decide
  obtain rfl := UInt8.isUTF8FirstByte_getElem_utf8EncodeChar.mp begins
  obtain ⟨first, rest, bytes⟩ := List.exists_cons_of_ne_nil (String.utf8EncodeChar_ne_nil (c := c))
  obtain rfl : first = 63 := by simpa only [bytes, List.getElem_cons_zero] using here
  have marked : (String.utf8EncodeChar c).toByteArray =
      (String.utf8EncodeChar '?').toByteArray ++ rest.toByteArray := by
    rw [bytes, ← List.toByteArray_append]
    rfl
  have own := ByteArray.utf8DecodeChar?_utf8EncodeChar_append (b := ByteArray.empty) (c := c)
  rw [ByteArray.append_empty, marked, ByteArray.utf8DecodeChar?_utf8EncodeChar_append] at own
  exact (Option.some.inj own).symm

theorem cut_at_mark {chars : List Char} {left right : List UInt8}
    (bytes : chars.flatMap String.utf8EncodeChar = left ++ 63 :: right) :
    ∃ before after : List Char, chars = before ++ '?' :: after ∧
      before.flatMap String.utf8EncodeChar = left ∧
      after.flatMap String.utf8EncodeChar = right := by
  induction chars generalizing left with
  | nil => simp at bytes
  | cons c rest ih =>
      rw [List.flatMap_cons, List.append_eq_append_iff] at bytes
      rcases bytes with ⟨more, rfl, rest_bytes⟩ | ⟨more, own, rest_bytes⟩
      · obtain ⟨before, after, rfl, rfl, rfl⟩ := ih rest_bytes
        exact ⟨c :: before, after, rfl, rfl, rfl⟩
      · cases more with
        | nil =>
            rw [List.append_nil] at own
            have later : rest.flatMap String.utf8EncodeChar = [] ++ 63 :: right := rest_bytes.symm
            obtain ⟨before, after, rfl, none, rfl⟩ := ih later
            exact ⟨c :: before, after, rfl, by rw [List.flatMap_cons, none, own, List.append_nil], rfl⟩
        | cons byte later =>
            obtain ⟨rfl, rfl⟩ := List.cons.inj rest_bytes
            obtain rfl := eq_mark_of_mem (c := c) (by simp [own])
            obtain ⟨rfl, mark⟩ | ⟨_, none⟩ := List.singleton_eq_append_iff.mp own
            · obtain rfl := (List.cons.inj mark).2
              exact ⟨[], rest, rfl, rfl, rfl⟩
            · cases none

theorem percentDecodeBytes_cons {byte : UInt8} (plain : byte ≠ 37) (rest : List UInt8) :
    percentDecodeBytes (byte :: rest) = byte :: percentDecodeBytes rest := by
  rw [percentDecodeBytes]
  rintro high low later rfl
  exact absurd rfl plain

theorem escaped?_mark_left (low : UInt8) : escaped? 63 low = none := rfl

theorem escaped?_mark_right (high : UInt8) : escaped? high 63 = none := by
  unfold escaped?
  cases hexByteValue? high <;> rfl

theorem percentDecodeBytes_mark (left right : List UInt8) :
    percentDecodeBytes (left ++ 63 :: right) =
      percentDecodeBytes left ++ 63 :: percentDecodeBytes right := by
  fun_induction percentDecodeBytes left with
  | case1 high low rest byte escaped ih =>
      simp only [List.cons_append] at ih ⊢
      rw [percentDecodeBytes, escaped]
      simp only [ih]
  | case2 high low rest none ih =>
      simp only [List.cons_append] at ih ⊢
      rw [percentDecodeBytes, none]
      simp only [ih]
  | case3 byte rest short ih =>
      rw [List.cons_append]
      by_cases escape : byte = 37
      · subst escape
        match rest, short with
        | [], _ =>
            cases right with
            | nil => rfl
            | cons low later =>
                rw [List.nil_append, percentDecodeBytes, escaped?_mark_left]
                exact congrArg _ (percentDecodeBytes_cons (by decide) _)
        | [high], _ =>
            rw [List.singleton_append, percentDecodeBytes, escaped?_mark_right]
            exact congrArg _ ih
        | high :: low :: later, short => exact absurd rfl (short high low later rfl)
      · rw [percentDecodeBytes_cons escape, ih]
        rfl
  | case4 => exact percentDecodeBytes_cons (by decide) right

theorem toList_toUTF8_mark (left right : String) :
    (left ++ "?" ++ right).toUTF8.toList = left.toUTF8.toList ++ 63 :: right.toUTF8.toList := by
  have mark : "?".toUTF8.toList = [63] := by decide +kernel
  rw [toList_toUTF8_append, toList_toUTF8_append, mark, List.append_assoc, List.singleton_append]

theorem exists_mark {text : String} {left right : List UInt8}
    (bytes : text.toUTF8.toList = left ++ 63 :: right) :
    ∃ before after : String, text = before ++ "?" ++ after ∧
      before.toUTF8.toList = left ∧ after.toUTF8.toList = right := by
  rw [toList_toUTF8] at bytes
  obtain ⟨before, after, chars, rfl, rfl⟩ := cut_at_mark bytes
  refine ⟨String.ofList before, String.ofList after, ?_, ?_, ?_⟩
  · apply String.toList_inj.mp
    simp [chars]
  · rw [toList_toUTF8, String.toList_ofList]
  · rw [toList_toUTF8, String.toList_ofList]

theorem percentDecode?_mark (left right : String) :
    percentDecode? (left ++ "?" ++ right) =
      (percentDecode? left).bind fun before =>
        (percentDecode? right).map fun after => before ++ "?" ++ after := by
  apply Option.ext
  intro decoded
  simp only [Option.bind_eq_some_iff, Option.map_eq_some_iff, percentDecode?_eq_some,
    toList_toUTF8_mark, percentDecodeBytes_mark]
  constructor
  · intro bytes
    obtain ⟨before, after, rfl, first, second⟩ := exists_mark bytes
    exact ⟨before, first, after, second, rfl⟩
  · rintro ⟨before, first, after, second, rfl⟩
    rw [toList_toUTF8_mark, first, second]

end LiveViews.Text
