import LiveViews.Proofs.Store.Tables
import Mathlib.Data.List.Induction
import Mathlib.Data.List.Nodup

/-!
Numbering of rows. An empty table that rows are inserted into and updated in, in any order and with
any refusals between, holds the rows that were let in, in that order and numbered from one, and no
value of a unique column twice (`files_rows_in_order`).
-/

namespace LiveViews.Store

/-- Rows of a kind have the same unique columns, and their ids are none of them. -/
class LawfulKeys (α : Type) [Row α] : Prop where
  uniqueKeys_withId : ∀ (row : α) (id : Int), Row.uniqueKeys (Row.withId row id) = Row.uniqueKeys row
  columns : ∃ columns : List String, columns.Nodup ∧
    ∀ row : α, (Row.uniqueKeys row).map Prod.fst = columns

instance : LawfulKeys Page := ⟨fun _ _ => rfl, ["name", "path"], by decide, fun _ => rfl⟩
instance : LawfulKeys Layout := ⟨fun _ _ => rfl, [], List.nodup_nil, fun _ => rfl⟩
instance : LawfulKeys Widget := ⟨fun _ _ => rfl, ["name"], by decide, fun _ => rfl⟩

/-- How many sequence numbers are ids of their own value. -/
def idLimit : Nat := 2147483648

theorem ofSequence_below {number : Nat} (small : number < idLimit) :
    IdWidth.ofSequence .i32 number = number := by
  unfold idLimit at small
  unfold IdWidth.ofSequence
  exact Int.bmod_eq_of_le (by omega) (by omega)

theorem idLimit_lt_idCount : idLimit < idCount := by decide

theorem idLimit_lt_sequenceBound : idLimit < sequenceBound := by decide

section Keys

theorem findSome?_clash {keys others : List (String × String)}
    (columns : keys.map Prod.fst = others.map Prod.fst) (nodup : (keys.map Prod.fst).Nodup) :
    ((keys.zip others).findSome? fun pair =>
      if pair.1.2 = pair.2.2 then some pair.1 else none).isSome = true ↔
      ∃ key ∈ keys, key ∈ others := by
  induction keys generalizing others with
  | nil => simp
  | cons key rest ih =>
      cases others with
      | nil => cases columns
      | cons other more =>
          rw [List.map_cons, List.map_cons, List.cons.injEq] at columns
          rw [List.map_cons, List.nodup_cons] at nodup
          obtain ⟨sameColumn, sameRest⟩ := columns
          rw [List.zip_cons_cons, List.findSome?_cons]
          by_cases same : key.2 = other.2
          · have equal : key = other := Prod.ext sameColumn same
            simp [equal]
          · have apart : key ≠ other := fun equal => same (congrArg Prod.snd equal)
            have left : key ∉ more := fun member => nodup.1 (by
              rw [sameRest]
              exact List.mem_map_of_mem member)
            have right : other ∉ rest := fun member => nodup.1 (by
              rw [sameColumn]
              exact List.mem_map_of_mem member)
            simp only [same, if_false]
            rw [ih sameRest nodup.2]
            constructor
            · rintro ⟨found, here, there⟩
              exact ⟨found, List.mem_cons_of_mem _ here, List.mem_cons_of_mem _ there⟩
            · rintro ⟨found, here, there⟩
              rcases List.mem_cons.mp here with rfl | here
              · exact absurd there (by simp [apart, left])
              · rcases List.mem_cons.mp there with rfl | there
                · exact absurd here right
                · exact ⟨found, here, there⟩

variable {α : Type} [Row α]

def Shares (row other : α) : Prop :=
  ∃ key ∈ Row.uniqueKeys row, key ∈ Row.uniqueKeys other

instance (row other : α) : Decidable (Shares row other) :=
  inferInstanceAs (Decidable (∃ key ∈ Row.uniqueKeys row, key ∈ Row.uniqueKeys other))

theorem Shares.symm {row other : α} (shares : Shares row other) : Shares other row := by
  obtain ⟨key, here, there⟩ := shares
  exact ⟨key, there, here⟩

variable [LawfulKeys α]

theorem shares_withId {row other : α} {id : Int} :
    Shares (Row.withId row id) other ↔ Shares row other := by
  unfold Shares
  rw [LawfulKeys.uniqueKeys_withId]

theorem clash?_isSome (row other : α) : (clash? row other).isSome = true ↔ Shares row other := by
  obtain ⟨columns, nodup, same⟩ := LawfulKeys.columns (α := α)
  refine findSome?_clash ((same row).trans (same other).symm) ?_
  rw [same row]
  exact nodup

theorem checkUnique_isOk (rows : List α) (row : α) : (checkUnique rows row).isOk = true ↔
    ∀ other ∈ rows, Row.id other ≠ Row.id row → ¬Shares row other := by
  unfold checkUnique
  dsimp only
  cases found : (rows.filter fun other => Row.id other ≠ Row.id row).findSome? (clash? row) with
  | none =>
      refine iff_of_true rfl fun other member different shares => ?_
      have clashes := (clash?_isSome row other).mpr shares
      rw [List.findSome?_eq_none_iff.mp found other
        (List.mem_filter.mpr ⟨member, decide_eq_true different⟩)] at clashes
      cases clashes
  | some clash =>
      obtain ⟨other, inside, clashes⟩ := List.exists_of_findSome?_eq_some found
      obtain ⟨member, different⟩ := List.mem_filter.mp inside
      refine iff_of_false Bool.false_ne_true fun free => ?_
      refine free other member (of_decide_eq_true different) ((clash?_isSome row other).mp ?_)
      rw [clashes]
      rfl

end Keys

section Rows

variable {α : Type} [Row α]

def Numbered (rows : List α) : Prop :=
  rows.map Row.id = (List.range rows.length).map fun count : Nat => (count : Int) + 1

namespace Numbered

variable {rows : List α}

theorem nil : Numbered ([] : List α) := rfl

theorem ordered (numbered : Numbered rows) : Ordered rows := by
  have increasing : (rows.map Row.id).Pairwise (· < ·) := by
    rw [numbered, List.pairwise_map]
    refine List.pairwise_lt_range.imp fun less => ?_
    omega
  exact List.pairwise_map.mp increasing

theorem exists_number (numbered : Numbered rows) {row : α} (member : row ∈ rows) :
    ∃ count < rows.length, Row.id row = count + 1 := by
  have known : Row.id row ∈ rows.map Row.id := List.mem_map_of_mem member
  rw [numbered] at known
  obtain ⟨count, below, same⟩ := List.mem_map.mp known
  exact ⟨count, List.mem_range.mp below, same.symm⟩

theorem append [LawfulRow α] (numbered : Numbered rows) (row : α) :
    Numbered (rows ++ [Row.withId row (rows.length + 1)]) := by
  unfold Numbered
  rw [List.map_append, numbered, List.length_append, List.length_singleton, List.range_succ,
    List.map_append, List.map_singleton, LawfulRow.id_withId, List.map_singleton]

theorem replace (numbered : Numbered rows) (row : α) :
    Numbered (rows.map fun other => if Row.id other = Row.id row then row else other) := by
  have sameIds : (rows.map fun other => if Row.id other = Row.id row then row else other).map Row.id =
      rows.map Row.id := by
    rw [List.map_map]
    refine List.map_congr_left fun other _ => ?_
    rw [Function.comp_apply]
    split
    next same => exact same.symm
    next => rfl
  unfold Numbered
  rw [sameIds, numbered, List.length_map]

theorem prefix_of_le {others : List α} (numbered : Numbered rows) (more : Numbered others)
    (fewer : rows.length ≤ others.length) : rows.map Row.id <+: others.map Row.id := by
  rw [numbered, more]
  obtain ⟨extra, same⟩ := Nat.exists_eq_add_of_le fewer
  rw [same, List.range_add, List.map_append]
  exact List.prefix_append _ _

theorem fresh (numbered : Numbered rows) (left : rows.length < idLimit) :
    ∀ other ∈ rows, Row.id other ≠ IdWidth.ofSequence .i32 (rows.length + 1) := by
  intro other member same
  obtain ⟨count, below, known⟩ := numbered.exists_number member
  have room := idLimit_lt_idCount
  have sequence : IdWidth.ofSequence .i32 (count + 1) =
      IdWidth.ofSequence .i32 (rows.length + 1) := by
    rw [ofSequence_below (by omega), ← same, known]
    rfl
  have equal := ofSequence_injective (by omega) (by omega) sequence
  omega

end Numbered

def Apart (rows : List α) : Prop :=
  rows.Pairwise fun row other => ¬Shares row other

theorem Apart.append [LawfulKeys α] {rows : List α} (apart : Apart rows) {row : α} (id : Int)
    (free : ∀ other ∈ rows, ¬Shares row other) : Apart (rows ++ [Row.withId row id]) := by
  refine List.pairwise_append.mpr ⟨apart, List.pairwise_singleton _ _, ?_⟩
  intro other member stored here shares
  rw [List.mem_singleton.mp here] at shares
  exact free other member (shares_withId.mp shares.symm)

theorem Apart.replace {rows : List α} (apart : Apart rows) (ordered : Ordered rows) {row : α}
    (free : ∀ other ∈ rows, Row.id other ≠ Row.id row → ¬Shares row other) :
    Apart (rows.map fun other => if Row.id other = Row.id row then row else other) := by
  refine List.pairwise_map.mpr ((apart.and ordered).imp_of_mem ?_)
  rintro first second firstMem secondMem ⟨different, less⟩
  by_cases here : Row.id first = Row.id row
  · have there : Row.id second ≠ Row.id row := by omega
    rw [if_pos here, if_neg there]
    exact free second secondMem there
  · rw [if_neg here]
    by_cases there : Row.id second = Row.id row
    · rw [if_pos there]
      exact fun shares => free first firstMem here shares.symm
    · rwa [if_neg there]

end Rows

inductive RowChange (α : Type) where
  | insert (row : α)
  | update (row : α)

section Changes

variable {α : Type} [Row α]

namespace RowChange

def perform (table : Table α) : RowChange α → Except StoreError (Table α)
  | .insert row => (table.insert row).map Prod.snd
  | .update row => table.update row

/-- A change of a table; one that is refused leaves it as it is. -/
def applyTo (table : Table α) (change : RowChange α) : Table α :=
  match change.perform table with
  | .ok later => later
  | .error _ => table

def isInsert : RowChange α → Bool
  | .insert _ => true
  | .update _ => false

/-- Whether rows that are numbered from one let a change in. -/
def Fits (rows : List α) : RowChange α → Prop
  | .insert row => ∀ other ∈ rows, ¬Shares row other
  | .update row => (∃ other ∈ rows, Row.id other = Row.id row) ∧
      ∀ other ∈ rows, Row.id other ≠ Row.id row → ¬Shares row other

instance (rows : List α) : (change : RowChange α) → Decidable (change.Fits rows)
  | .insert _ => inferInstanceAs (Decidable (∀ _ ∈ _, _))
  | .update _ => inferInstanceAs (Decidable (_ ∧ _))

def edit (rows : List α) : RowChange α → List α
  | .insert row => rows ++ [Row.withId row (rows.length + 1)]
  | .update row => rows.map fun other => if Row.id other = Row.id row then row else other

end RowChange

def Table.applyAll (table : Table α) (changes : List (RowChange α)) : Table α :=
  changes.foldl RowChange.applyTo table

/-- How many of the changes insert a row. -/
def Table.insertedBy (table : Table α) : List (RowChange α) → Nat
  | [] => 0
  | change :: rest =>
    (if change.isInsert && (change.perform table).isOk then 1 else 0) +
      (change.applyTo table).insertedBy rest

/-- The rows that changes come to when they are taken one after another. -/
def filedRows (changes : List (RowChange α)) : List α :=
  changes.foldl (fun rows change => if change.Fits rows then change.edit rows else rows) []

theorem insertedBy_append (table : Table α) (changes : List (RowChange α)) (change : RowChange α) :
    table.insertedBy (changes ++ [change]) = table.insertedBy changes +
      if change.isInsert && (change.perform (table.applyAll changes)).isOk then 1 else 0 := by
  induction changes generalizing table with
  | nil => simp [Table.insertedBy, Table.applyAll]
  | cons first rest ih =>
      rw [List.cons_append, Table.insertedBy, ih, Table.insertedBy, Nat.add_assoc]
      rfl

theorem insertedBy_le (table : Table α) (changes more : List (RowChange α)) :
    table.insertedBy changes ≤ table.insertedBy (changes ++ more) := by
  induction changes generalizing table with
  | nil => exact Nat.zero_le _
  | cons first rest ih => exact Nat.add_le_add_left (ih _) _

theorem applyAll_append (table : Table α) (changes : List (RowChange α)) (change : RowChange α) :
    table.applyAll (changes ++ [change]) = change.applyTo (table.applyAll changes) := by
  unfold Table.applyAll
  rw [List.foldl_append]
  rfl

theorem filedRows_append (changes : List (RowChange α)) (change : RowChange α) :
    filedRows (changes ++ [change]) =
      if change.Fits (filedRows changes) then change.edit (filedRows changes)
      else filedRows changes := by
  unfold filedRows
  rw [List.foldl_append]
  rfl

theorem applyTo_of_refused {table : Table α} {change : RowChange α}
    (refused : (change.perform table).isOk = false) : change.applyTo table = table := by
  unfold RowChange.applyTo
  cases performed : change.perform table with
  | error error => rfl
  | ok later =>
      rw [performed] at refused
      cases refused

def Table.ofRows (rows : List α) : Table α :=
  ⟨rows, rows.length⟩

theorem isOk_map {ε β γ : Type} (change : β → γ) (result : Except ε β) :
    (result.map change).isOk = result.isOk := by
  cases result <;> rfl

theorem perform_insert_isOk [LawfulRow α] [LawfulKeys α] {rows : List α} (numbered : Numbered rows)
    (left : rows.length < idLimit) (row : α) :
    ((RowChange.insert row).perform (Table.ofRows rows)).isOk = true ↔
      (RowChange.insert row).Fits rows := by
  have room := idLimit_lt_sequenceBound
  have possible : (Table.ofRows rows).sequence + 1 < sequenceBound := by
    show rows.length + 1 < sequenceBound
    unfold idLimit at left
    unfold sequenceBound
    omega
  have checked : ((RowChange.insert row).perform (Table.ofRows rows)).isOk =
      (checkUnique rows (Row.withId row (IdWidth.ofSequence .i32 (rows.length + 1)))).isOk := by
    rw [RowChange.perform, Table.insert_eq row possible, isOk_map, isOk_map]
    rfl
  rw [checked, checkUnique_isOk]
  constructor
  · intro free other member shares
    refine free other member ?_ (shares_withId.mpr shares)
    rw [LawfulRow.id_withId]
    exact numbered.fresh left other member
  · intro free other member _ shares
    exact free other member (shares_withId.mp shares)

theorem perform_update_isOk [LawfulKeys α] (table : Table α) (row : α) :
    ((RowChange.update row).perform table).isOk = true ↔ (RowChange.update row).Fits table.rows := by
  rw [RowChange.perform, RowChange.Fits]
  by_cases known : ∃ other ∈ table.rows, Row.id other = Row.id row
  · have checked : (table.update row).isOk = (checkUnique table.rows row).isOk := by
      rw [Table.update_eq known]
      cases checkUnique table.rows row <;> rfl
    rw [checked, checkUnique_isOk]
    exact (and_iff_right known).symm
  · refine iff_of_false ?_ fun fits => known fits.1
    intro accepted
    cases updated : table.update row with
    | error error =>
        rw [updated] at accepted
        cases accepted
    | ok later => exact known (Table.update_ok updated).1

theorem perform_isOk [LawfulRow α] [LawfulKeys α] {rows : List α} (numbered : Numbered rows)
    (left : rows.length < idLimit) (change : RowChange α) :
    (change.perform (Table.ofRows rows)).isOk = true ↔ change.Fits rows := by
  cases change with
  | insert row => exact perform_insert_isOk numbered left row
  | update row => exact perform_update_isOk _ row

theorem perform_eq [LawfulRow α] {rows : List α} {later : Table α} (numbered : Numbered rows)
    (change : RowChange α) (accepted : change.perform (Table.ofRows rows) = .ok later)
    (left : (change.edit rows).length < idLimit) : later = Table.ofRows (change.edit rows) := by
  cases change with
  | insert row =>
      rw [RowChange.perform] at accepted
      rw [RowChange.edit, List.length_append, List.length_singleton] at left
      cases inserted : (Table.ofRows rows).insert row with
      | error error =>
          rw [inserted] at accepted
          cases accepted
      | ok answer =>
          rw [inserted] at accepted
          cases accepted
          obtain ⟨placed, later⟩ := answer
          obtain ⟨stored, _, table⟩ := Table.insert_ok inserted
          have sequence : (Table.ofRows rows).sequence + 1 = rows.length + 1 := rfl
          rw [sequence, ofSequence_below left] at stored
          have below : ∀ other ∈ rows, Row.id other < Row.id placed := by
            intro other member
            obtain ⟨count, less, known⟩ := numbered.exists_number member
            rw [stored, LawfulRow.id_withId, known]
            omega
          have appended : putRow placed rows = rows ++ [placed] := putRow_of_below below
          rw [table]
          show (⟨putRow placed rows, rows.length + 1⟩ : Table α) = Table.ofRows (rows ++ [_])
          rw [appended, stored, Table.ofRows, List.length_append, List.length_singleton]
          rfl
  | update row =>
      obtain ⟨known, _, table⟩ := Table.update_ok accepted
      rw [table]
      show (⟨putRow row rows, rows.length⟩ : Table α) = Table.ofRows (rows.map _)
      rw [putRow_eq_map numbered.ordered known, Table.ofRows, List.length_map]

/-- A table that started empty holds the rows that were filed, and has counted them. -/
theorem applyAll_eq [LawfulRow α] [LawfulKeys α] (changes : List (RowChange α))
    (few : ({} : Table α).insertedBy changes < idLimit) :
    ({} : Table α).applyAll changes = Table.ofRows (filedRows changes) ∧
      ({} : Table α).insertedBy changes = (filedRows changes).length ∧
      Numbered (filedRows changes) ∧ Apart (filedRows changes) := by
  -- On the last change: whether it fits is asked of the rows that all earlier ones have come to.
  induction changes using List.reverseRecOn with
  | nil => exact ⟨rfl, rfl, Numbered.nil, List.Pairwise.nil⟩
  | append_singleton earlier change ih =>
      rw [insertedBy_append] at few
      obtain ⟨table, count, numbered, apart⟩ := ih (by omega)
      rw [applyAll_append, insertedBy_append, filedRows_append]
      rw [table, count] at few ⊢
      have fits := perform_isOk numbered (by omega) change
      by_cases accepted : change.Fits (filedRows earlier)
      · rw [if_pos accepted]
        rw [fits.mpr accepted, Bool.and_true] at few ⊢
        have length : (change.edit (filedRows earlier)).length =
            (filedRows earlier).length + if change.isInsert = true then 1 else 0 := by
          cases change <;> simp [RowChange.edit, RowChange.isInsert]
        have filed : change.applyTo (Table.ofRows (filedRows earlier)) =
            Table.ofRows (change.edit (filedRows earlier)) := by
          unfold RowChange.applyTo
          cases performed : change.perform (Table.ofRows (filedRows earlier)) with
          | error error =>
              have allowed := fits.mpr accepted
              rw [performed] at allowed
              cases allowed
          | ok later => exact perform_eq numbered change performed (by omega)
        refine ⟨filed, length.symm, ?_⟩
        cases change with
        | insert row => exact ⟨numbered.append row, apart.append _ accepted⟩
        | update row => exact ⟨numbered.replace row, apart.replace numbered.ordered accepted.2⟩
      · have refused : (change.perform (Table.ofRows (filedRows earlier))).isOk = false := by
          rw [← Bool.not_eq_true, fits]
          exact accepted
        rw [if_neg accepted, refused, Bool.and_false]
        exact ⟨applyTo_of_refused refused, rfl, numbered, apart⟩

/-- After any changes of an empty table, its rows are those that were filed, numbered from one and
apart, and the counter is their number. A change is let in exactly if it fits, which then edits the
rows as it says; one that is refused leaves the table as it is, and no row is ever lost. -/
theorem files_rows_in_order [LawfulRow α] [LawfulKeys α] (changes : List (RowChange α))
    (few : ({} : Table α).insertedBy changes < idLimit) :
    let table := ({} : Table α).applyAll changes
    table.rows = filedRows changes ∧ Numbered table.rows ∧ Apart table.rows ∧
    table.sequence = table.rows.length ∧ table.rows.length = ({} : Table α).insertedBy changes ∧
    (∀ change : RowChange α, (change.perform table).isOk = true ↔ change.Fits table.rows) ∧
    (∀ (change : RowChange α) later, change.perform table = .ok later →
      (change.edit table.rows).length < idLimit →
        later = ⟨change.edit table.rows, (change.edit table.rows).length⟩) ∧
    (∀ change : RowChange α, ¬change.Fits table.rows → change.applyTo table = table) ∧
    ∀ earlier, earlier <+: changes →
      (({} : Table α).applyAll earlier).rows.map Row.id <+: table.rows.map Row.id := by
  obtain ⟨same, count, numbered, apart⟩ := applyAll_eq changes few
  intro table
  have filed : table = Table.ofRows (filedRows changes) := same
  have left : (filedRows changes).length < idLimit := by omega
  have fits := perform_isOk numbered left
  rw [filed]
  refine ⟨rfl, numbered, apart, rfl, count.symm, fits,
    fun change later accepted => perform_eq numbered change accepted, ?_, ?_⟩
  · intro change unfit
    exact applyTo_of_refused (by rw [← Bool.not_eq_true, fits]; exact unfit)
  · rintro earlier ⟨later, rfl⟩
    have fewer := insertedBy_le ({} : Table α) earlier later
    obtain ⟨sameEarlier, countEarlier, numberedEarlier, _⟩ := applyAll_eq earlier (by omega)
    have grown : (filedRows earlier).length ≤ (filedRows (earlier ++ later)).length := by omega
    rw [sameEarlier]
    exact numberedEarlier.prefix_of_le numbered grown

end Changes

def shelf : List (RowChange Page) :=
  [.insert { name := "a", path := "/a", body := "A" },
    .insert { name := "b", path := "/a", body := "B" },
    .update { id := 2, name := "b", path := "/b", body := "B" },
    .insert { name := "b", path := "/b", body := "B" },
    .update { id := 2, name := "b", path := "/a", body := "B" },
    .update { id := 1, name := "a", path := "/c", body := "C" }]

theorem files_rows_in_order_shelf : ({} : Table Page).insertedBy shelf < idLimit ∧
    (({} : Table Page).applyAll shelf).rows = filedRows shelf ∧
    ((RowChange.insert { name := "d", path := "/a", body := "D" }).perform
      (({} : Table Page).applyAll shelf)).isOk = true := by
  have few : ({} : Table Page).insertedBy shelf < idLimit := by decide +kernel
  have filed := files_rows_in_order shelf few
  exact ⟨few, filed.1, (filed.2.2.2.2.2.1 _).mpr (by decide +kernel)⟩

example : (filedRows shelf).map (fun page => (page.id, page.path)) = [(1, "/c"), (2, "/b")] := by
  decide +kernel

end LiveViews.Store
