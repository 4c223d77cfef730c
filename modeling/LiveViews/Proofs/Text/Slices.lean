import LiveViews.Text.Bytes

/-!
Texts cut at byte offsets. A text can be cut between its characters only: an offset inside of one has
nothing before it and nothing behind it (`before?_eq_some`, `behind?_eq_some`). The search back from a
limit stops at the last offset where the text can be cut, and so finds the longest beginning that takes
no more bytes than the limit (`cut?_eq`).
-/

namespace LiveViews.Text

/-! ### Offsets between characters -/

def isBoundary (text : String) (offset : Nat) : Bool :=
  String.Pos.Raw.isValid text ⟨offset⟩

/-- The text before a byte offset; none for an offset that the text cannot be cut at. -/
def before? (text : String) (offset : Nat) : Option String :=
  if between : String.Pos.Raw.IsValid text ⟨offset⟩ then
    some (text.sliceTo ⟨⟨offset⟩, between⟩).copy
  else none

def behind? (text : String) (offset : Nat) : Option String :=
  if between : String.Pos.Raw.IsValid text ⟨offset⟩ then
    some (text.sliceFrom ⟨⟨offset⟩, between⟩).copy
  else none

theorem isValid_append (front back : String) :
    String.Pos.Raw.IsValid (front ++ back) ⟨front.utf8ByteSize⟩ :=
  String.Pos.Raw.isValid_iff_exists_append.mpr ⟨front, back, rfl, rfl⟩

theorem splits_append (front back : String) :
    String.Pos.Splits ⟨⟨front.utf8ByteSize⟩, isValid_append front back⟩ front back :=
  ⟨rfl, rfl⟩

theorem isBoundary_iff {text : String} {offset : Nat} : isBoundary text offset = true ↔
    ∃ front back, text = front ++ back ∧ front.utf8ByteSize = offset := by
  unfold isBoundary
  rw [String.Pos.Raw.isValid_eq_true_iff]
  constructor
  · intro between
    obtain ⟨front, back, whole, place⟩ := String.Pos.Raw.isValid_iff_exists_append.mp between
    exact ⟨front, back, whole, (congrArg String.Pos.Raw.byteIdx place).symm⟩
  · rintro ⟨front, back, rfl, rfl⟩
    exact isValid_append front back

theorem slices_append {text : String} {offset : Nat}
    (between : String.Pos.Raw.IsValid text ⟨offset⟩) :
    text = (text.sliceTo ⟨⟨offset⟩, between⟩).copy ++ (text.sliceFrom ⟨⟨offset⟩, between⟩).copy ∧
      (text.sliceTo ⟨⟨offset⟩, between⟩).copy.utf8ByteSize = offset := by
  have splits := String.Pos.splits (⟨⟨offset⟩, between⟩ : text.Pos)
  exact ⟨splits.eq_append, (congrArg String.Pos.Raw.byteIdx splits.offset_eq_rawEndPos).symm⟩

theorem before?_eq_some {text front : String} {offset : Nat} : before? text offset = some front ↔
    ∃ back, text = front ++ back ∧ front.utf8ByteSize = offset := by
  unfold before?
  constructor
  · intro found
    split at found
    next between =>
      cases found
      exact ⟨_, slices_append between⟩
    next => cases found
  · rintro ⟨back, rfl, rfl⟩
    rw [dif_pos (isValid_append front back), (splits_append front back).copy_sliceTo_eq]

theorem behind?_eq_some {text back : String} {offset : Nat} : behind? text offset = some back ↔
    ∃ front, text = front ++ back ∧ front.utf8ByteSize = offset := by
  unfold behind?
  constructor
  · intro found
    split at found
    next between =>
      cases found
      exact ⟨_, slices_append between⟩
    next => cases found
  · rintro ⟨front, rfl, rfl⟩
    rw [dif_pos (isValid_append front back), (splits_append front back).copy_sliceFrom_eq]

/-! ### Lengths in bytes -/

theorem byteLength_cons (c : Char) (rest : List Char) :
    byteLength (c :: rest) = c.utf8Size + byteLength rest := rfl

theorem byteLength_ofList (chars : List Char) :
    byteLength chars = (String.ofList chars).utf8ByteSize := by
  induction chars with
  | nil => rfl
  | cons c rest ih =>
      rw [byteLength_cons, ih, String.ofList_cons, String.utf8ByteSize_append,
        String.utf8ByteSize_singleton]

theorem byteLength_toList (text : String) : byteLength text.toList = text.utf8ByteSize := by
  rw [byteLength_ofList, String.ofList_toList]

theorem exists_rest {front text : String} (begins : front.toList <+: text.toList) :
    ∃ rest, text = front ++ rest := by
  obtain ⟨rest, whole⟩ := begins
  refine ⟨String.ofList rest, String.toList_inj.mp ?_⟩
  rw [String.toList_append, String.toList_ofList, whole]

theorem toList_prefix_append (front rest : String) : front.toList <+: (front ++ rest).toList := by
  rw [String.toList_append]
  exact List.prefix_append _ _

theorem prefix_of_size_le {text left right : String} (leftBegins : left.toList <+: text.toList)
    (rightBegins : right.toList <+: text.toList) (size : left.utf8ByteSize ≤ right.utf8ByteSize) :
    left.toList <+: right.toList := by
  rcases List.prefix_or_prefix_of_prefix leftBegins rightBegins with begins | begins
  · exact begins
  · obtain ⟨rest, rfl⟩ := exists_rest begins
    rw [String.utf8ByteSize_append] at size
    have nothing : rest = "" := String.utf8ByteSize_eq_zero_iff.mp (by omega)
    have same : right ++ rest = right := by rw [nothing, String.append_empty]
    exact same.symm ▸ List.prefix_rfl

/-! ### The longest beginning -/

/-- The longest beginning of a text, in whole characters, that takes at most `limit` bytes. -/
structure LongestWithin (limit : Nat) (text kept : String) : Prop where
  begins : kept.toList <+: text.toList
  fits : kept.utf8ByteSize ≤ limit
  longest : ∀ other : String, other.toList <+: text.toList → other.utf8ByteSize ≤ limit →
    other.toList <+: kept.toList

namespace LongestWithin

variable {limit : Nat} {text kept other : String}

theorem unique (first : LongestWithin limit text kept) (second : LongestWithin limit text other) :
    kept = other := by
  have left := second.longest kept first.begins first.fits
  have right := first.longest other second.begins second.fits
  exact String.toList_inj.mp (left.eq_of_length_le right.length_le)

theorem isBoundary (longest : LongestWithin limit text kept) :
    isBoundary text kept.utf8ByteSize = true := by
  obtain ⟨rest, whole⟩ := exists_rest longest.begins
  exact isBoundary_iff.mpr ⟨kept, rest, whole, rfl⟩

theorem append (front : String) (longest : LongestWithin limit text kept) :
    LongestWithin (front.utf8ByteSize + limit) (front ++ text) (front ++ kept) where
  begins := by
    rw [String.toList_append, String.toList_append, List.prefix_append_right_inj]
    exact longest.begins
  fits := by
    rw [String.utf8ByteSize_append]
    exact Nat.add_le_add_left longest.fits _
  longest other begins fits := by
    rcases List.prefix_or_prefix_of_prefix begins (toList_prefix_append front text) with short | long
    · exact short.trans (toList_prefix_append front kept)
    · obtain ⟨rest, rfl⟩ := exists_rest long
      rw [String.utf8ByteSize_append] at fits
      rw [String.toList_append, String.toList_append, List.prefix_append_right_inj] at begins ⊢
      exact longest.longest rest begins (by omega)

end LongestWithin

theorem takeBytes_begins (limit : Nat) (text : List Char) : takeBytes limit text <+: text := by
  fun_induction takeBytes limit text with
  | case1 => exact List.nil_prefix
  | case2 limit c rest fits ih => exact (List.prefix_cons_inj c).mpr ih
  | case3 => exact List.nil_prefix

theorem byteLength_takeBytes (limit : Nat) (text : List Char) :
    byteLength (takeBytes limit text) ≤ limit := by
  fun_induction takeBytes limit text with
  | case1 => exact Nat.zero_le _
  | case2 limit c rest fits ih =>
      rw [byteLength_cons]
      omega
  | case3 => exact Nat.zero_le _

theorem prefix_takeBytes {limit : Nat} {text other : List Char} (begins : other <+: text)
    (fits : byteLength other ≤ limit) : other <+: takeBytes limit text := by
  fun_induction takeBytes limit text generalizing other with
  | case1 => exact begins
  | case2 limit c rest room ih =>
      cases other with
      | nil => exact List.nil_prefix
      | cons first later =>
          obtain ⟨rfl, inside⟩ := List.cons_prefix_cons.mp begins
          rw [byteLength_cons] at fits
          exact List.cons_prefix_cons.mpr ⟨rfl, ih inside (by omega)⟩
  | case3 limit c rest full =>
      cases other with
      | nil => exact List.nil_prefix
      | cons first later =>
          obtain ⟨rfl, _⟩ := List.cons_prefix_cons.mp begins
          rw [byteLength_cons] at fits
          omega

theorem longestWithin_takeBytes (limit : Nat) (text : String) :
    LongestWithin limit text (String.ofList (takeBytes limit text.toList)) where
  begins := by
    rw [String.toList_ofList]
    exact takeBytes_begins _ _
  fits := by
    rw [← byteLength_ofList]
    exact byteLength_takeBytes _ _
  longest other begins fits := by
    rw [← byteLength_toList] at fits
    rw [String.toList_ofList]
    exact prefix_takeBytes begins fits

/-! ### The search for it -/

/-- The last offset up to the given one that a text can be cut at, searched for backwards. -/
def boundaryUpTo (text : String) : Nat → Nat
  | 0 => 0
  | offset + 1 => if isBoundary text (offset + 1) then offset + 1 else boundaryUpTo text offset

def cut? (limit : Nat) (text : String) : Option String :=
  if text.utf8ByteSize ≤ limit then some text else before? text (boundaryUpTo text limit)

theorem boundaryUpTo_le (text : String) (offset : Nat) : boundaryUpTo text offset ≤ offset := by
  fun_induction boundaryUpTo text offset with
  | case1 => exact Nat.le_refl 0
  | case2 => exact Nat.le_refl _
  | case3 offset inside ih => exact Nat.le_succ_of_le ih

theorem isBoundary_boundaryUpTo (text : String) (offset : Nat) :
    isBoundary text (boundaryUpTo text offset) = true := by
  fun_induction boundaryUpTo text offset with
  | case1 => exact isBoundary_iff.mpr ⟨"", text, String.empty_append.symm, String.utf8ByteSize_empty⟩
  | case2 offset between => exact between
  | case3 offset inside ih => exact ih

theorem le_boundaryUpTo {text : String} {place offset : Nat} (between : isBoundary text place = true)
    (within : place ≤ offset) : place ≤ boundaryUpTo text offset := by
  fun_induction boundaryUpTo text offset with
  | case1 => exact within
  | case2 => exact within
  | case3 offset inside ih =>
      have other : place ≠ offset + 1 := fun same => inside (same ▸ between)
      exact ih (by omega)

theorem cut?_longest (limit : Nat) (text : String) :
    ∃ kept, cut? limit text = some kept ∧ LongestWithin limit text kept := by
  by_cases short : text.utf8ByteSize ≤ limit
  · exact ⟨text, if_pos short, List.prefix_rfl, short, fun _ begins _ => begins⟩
  · obtain ⟨kept, rest, whole, size⟩ := isBoundary_iff.mp (isBoundary_boundaryUpTo text limit)
    have begins : kept.toList <+: text.toList := whole ▸ toList_prefix_append kept rest
    refine ⟨kept, ?_, begins, size ▸ boundaryUpTo_le text limit, ?_⟩
    · rw [cut?, if_neg short]
      exact before?_eq_some.mpr ⟨rest, whole, size⟩
    · intro other otherBegins fits
      obtain ⟨behind, cut⟩ := exists_rest otherBegins
      have between := isBoundary_iff.mpr ⟨other, behind, cut, rfl⟩
      exact prefix_of_size_le otherBegins begins (size ▸ le_boundaryUpTo between fits)

theorem cut?_eq (limit : Nat) (text : String) :
    cut? limit text = some (String.ofList (takeBytes limit text.toList)) := by
  obtain ⟨kept, cut, longest⟩ := cut?_longest limit text
  rw [cut, longest.unique (longestWithin_takeBytes limit text)]

end LiveViews.Text
