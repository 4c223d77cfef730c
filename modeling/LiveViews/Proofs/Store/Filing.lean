import LiveViews.Proofs.Store.Upserts
import LiveViews.Store.Seed

/-!
Tables that were filled by inserts and updates alone, of rows that fit. In such a table the value of a
unique column stands for one row (`Filed.eq_of_shares`), and every row fits.
-/

namespace LiveViews.Store

variable {α : Type} [Row α]

namespace Seed

theorem addRows_keeps {motive : Repository α → Prop} {rows : List α} {repository later : Repository α}
    {count : Nat}
    (insert : ∀ row ∈ rows, ∀ repository stored later, motive repository →
      repository.insert row = .ok (stored, later) → motive later)
    (holds : motive repository) (added : addRows rows repository = .ok (count, later)) :
    motive later := by
  unfold addRows at added
  generalize 0 = start at added
  induction rows generalizing start repository with
  | nil =>
      cases added
      exact holds
  | cons row rest ih =>
      have insertRest := fun other member => insert other (List.mem_cons_of_mem row member)
      rw [List.foldlM_cons] at added
      dsimp only at added
      cases inserted : repository.insert row with
      | ok answer =>
          rw [inserted] at added
          exact ih insertRest (insert row List.mem_cons_self _ _ _ holds inserted) _ added
      | error error =>
          rw [inserted] at added
          cases error with
          | duplicate => exact ih insertRest holds _ added
          | unknownId | exhausted | backend | io | invalidSeed => cases added

theorem addTo_ok {seed : Seed} {extension : String} {now : Int} {stores later : Stores} {count : Nat}
    (added : seed.addTo extension now stores = .ok (count, later)) :
    (∃ layouts, addRows (seed.layoutRows now) stores.layouts = .ok (layouts, later.layouts)) ∧
    (∃ pages, addRows (seed.pageRows extension now) stores.pages = .ok (pages, later.pages)) ∧
    ∃ widgets, addRows (seed.widgetRows now) stores.widgets = .ok (widgets, later.widgets) := by
  unfold addTo at added
  cases layouts : addRows (seed.layoutRows now) stores.layouts with
  | error error =>
      rw [layouts] at added
      cases added
  | ok first =>
      rw [layouts] at added
      cases pages : addRows (seed.pageRows extension now) stores.pages with
      | error error =>
          simp only [pages, bind, Except.bind] at added
          cases added
      | ok second =>
          cases widgets : addRows (seed.widgetRows now) stores.widgets with
          | error error =>
              simp only [pages, widgets, bind, Except.bind] at added
              cases added
          | ok third =>
              simp only [pages, widgets, bind, Except.bind] at added
              cases added
              exact ⟨⟨_, rfl⟩, ⟨_, rfl⟩, _, rfl⟩

end Seed

namespace Table

structure Filed (fits : α → Prop) (table : Table α) : Prop where
  sound : table.Sound
  keyed : ∀ row ∈ table.rows, ∀ other ∈ table.rows, Shares row other → Row.id row = Row.id other
  fits : ∀ row ∈ table.rows, fits row

variable {fits : α → Prop} {table later : Table α}

theorem filed_new : ({} : Table α).Filed fits :=
  ⟨sound_new, by simp, by simp⟩

theorem Filed.eq_of_shares (filed : table.Filed fits) {row other : α} (rowMem : row ∈ table.rows)
    (otherMem : other ∈ table.rows) (shares : Shares row other) : row = other :=
  filed.sound.ordered.eq_of_id rowMem otherMem (filed.keyed row rowMem other otherMem shares)

theorem keyed_putRow [LawfulKeys α] {rows : List α} {row : α}
    (keyed : ∀ first ∈ rows, ∀ second ∈ rows, Shares first second → Row.id first = Row.id second)
    (checked : checkUnique rows row = .ok ()) :
    ∀ first ∈ putRow row rows, ∀ second ∈ putRow row rows, Shares first second →
      Row.id first = Row.id second := by
  have free := (checkUnique_isOk rows row).mp (by rw [checked]; rfl)
  intro first firstMem second secondMem shares
  rcases mem_putRow firstMem with rfl | firstOld <;> rcases mem_putRow secondMem with rfl | secondOld
  · rfl
  · by_contra different
    exact free second secondOld (Ne.symm different) shares
  · by_contra different
    exact free first firstOld different shares.symm
  · exact keyed first firstOld second secondOld shares

theorem fits_putRow {rows : List α} {row : α} (old : ∀ other ∈ rows, fits other) (new : fits row) :
    ∀ other ∈ putRow row rows, fits other := by
  intro other member
  rcases mem_putRow member with rfl | known
  · exact new
  · exact old other known

theorem Filed.insert [LawfulRow α] [LawfulKeys α] (filed : table.Filed fits) {row stored : α}
    (inserted : table.insert row = .ok (stored, later)) (new : ∀ id, fits (Row.withId row id)) :
    later.Filed fits := by
  refine ⟨filed.sound.insert inserted, ?_, ?_⟩
  · obtain ⟨_, checked, rfl⟩ := insert_ok inserted
    exact keyed_putRow filed.keyed checked
  · obtain ⟨rfl, _, rfl⟩ := insert_ok inserted
    exact fits_putRow filed.fits (new _)

theorem Filed.update [LawfulKeys α] (filed : table.Filed fits) {row : α}
    (updated : table.update row = .ok later) (new : fits row) : later.Filed fits := by
  refine ⟨filed.sound.update updated, ?_, ?_⟩
  · obtain ⟨_, checked, rfl⟩ := update_ok updated
    exact keyed_putRow filed.keyed checked
  · obtain ⟨_, _, rfl⟩ := update_ok updated
    exact fits_putRow filed.fits new

end Table

variable [LawfulRow α] [LawfulKeys α] {fits : α → Prop} {repository later : Repository α}

theorem Upserted.filed {wanted : α → Bool} {added : α} {edited : α → α}
    (upserted : Upserted wanted added edited repository later) (filed : repository.table.Filed fits)
    (adds : ∀ id, fits (Row.withId added id)) (edits : ∀ row, fits row → fits (edited row)) :
    later.table.Filed fits := by
  cases upserted with
  | added _ inserted => exact filed.insert (Repository.insert_ok inserted).1 adds
  | edited found updated =>
      have known := filed.fits _ (List.mem_of_find?_eq_some found)
      exact filed.update (Repository.update_ok updated).1 (edits _ known)

theorem Seed.addRows_filed {rows : List α} {count : Nat} (filed : repository.table.Filed fits)
    (new : ∀ row ∈ rows, ∀ id, fits (Row.withId row id))
    (added : Seed.addRows rows repository = .ok (count, later)) : later.table.Filed fits := by
  apply Seed.addRows_keeps (motive := fun repository => repository.table.Filed fits) _ filed added
  intro row member repository stored later filed inserted
  exact filed.insert (Repository.insert_ok inserted).1 (new row member)

end LiveViews.Store
