import LiveViews.Proofs.Store.Numbering

/-!
Upserts: the wanted row is edited in its place if it is there, and added if it is not. An upsert that
succeeds leaves one row that is wanted, which holds what was to be written, and every other row as it
was (`Upserted.rewritten`).
-/

namespace LiveViews.Store

variable {α : Type} [Row α]

/-- The given row is the one that is wanted, and the rows of other ids are as they were. -/
structure Rewritten (wanted : α → Bool) (row : α) (table later : Table α) : Prop where
  only : later.rows.filter wanted = [row]
  others : (later.rows.filter fun other => Row.id other ≠ Row.id row) =
    table.rows.filter fun other => Row.id other ≠ Row.id row
  spared : later.sequence < idCount →
    (later.rows.filter fun other => !wanted other) = table.rows.filter fun other => !wanted other

theorem Ordered.only_wanted {rows : List α} (ordered : Ordered rows) {row : α} {wanted : α → Bool}
    (own : wanted row = true)
    (apart : ∀ other ∈ rows, Row.id other ≠ Row.id row → wanted other = false) :
    (Store.putRow row rows).filter wanted = [row] := by
  have sameAfter : ∀ other ∈ Store.putRow row rows,
      wanted other = decide (Row.id other = Row.id row) := by
    intro other member
    by_cases here : Row.id other = Row.id row
    · have equal := (ordered.putRow row).eq_of_id member (mem_putRow_self row rows) here
      rw [equal, own, decide_eq_true rfl]
    · rw [decide_eq_false here]
      rcases mem_putRow member with rfl | old
      · exact absurd rfl here
      · exact apart other old here
  rw [List.filter_congr sameAfter]
  exact ordered.filter_putRow_own row

theorem unwanted_putRow {rows : List α} {row : α} {wanted : α → Bool} (own : wanted row = true)
    (same : ∀ other ∈ rows, Row.id other = Row.id row → wanted other = true) :
    ((putRow row rows).filter fun other => !wanted other) = rows.filter fun other => !wanted other := by
  have narrowed : ∀ list : List α, (∀ other ∈ list, Row.id other = Row.id row → wanted other = true) →
      (list.filter fun other => !wanted other) =
        (list.filter fun other => Row.id other ≠ Row.id row).filter fun other => !wanted other := by
    intro list alike
    rw [List.filter_filter]
    refine List.filter_congr fun other member => ?_
    by_cases here : Row.id other = Row.id row
    · simp [alike other member here]
    · simp [here]
  have after : ∀ other ∈ putRow row rows, Row.id other = Row.id row → wanted other = true := by
    intro other member here
    rcases mem_putRow member with rfl | old
    · exact own
    · exact same other old here
  rw [narrowed _ after, narrowed _ same, filter_putRow_others]

inductive Upserted (wanted : α → Bool) (added : α) (edited : α → α)
    (repository later : Repository α) : Prop where
  | added {stored : α} : repository.table.find? wanted = none →
      repository.insert added = .ok (stored, later) → Upserted wanted added edited repository later
  | edited {row : α} : repository.table.find? wanted = some row →
      repository.update (edited row) = .ok later → Upserted wanted added edited repository later

namespace Upserted

variable {wanted : α → Bool} {added : α} {edited : α → α} {repository later : Repository α}

theorem sound [LawfulRow α] (upserted : Upserted wanted added edited repository later)
    (sound : repository.table.Sound) : later.table.Sound := by
  cases upserted with
  | added _ inserted => exact sound.insert (Repository.insert_ok inserted).1
  | edited _ updated => exact sound.update (Repository.update_ok updated).1

theorem rewritten [LawfulRow α] [LawfulKeys α]
    (upserted : Upserted wanted added edited repository later) (sound : repository.table.Sound)
    {holds : α → Prop} (adds : ∀ id, wanted (Row.withId added id) = true ∧ holds (Row.withId added id))
    (edits : ∀ row, wanted row = true →
      wanted (edited row) = true ∧ Row.id (edited row) = Row.id row ∧ holds (edited row))
    (key : ∀ row other, wanted row = true → wanted other = true → Shares row other) :
    ∃ row, holds row ∧ Rewritten wanted row repository.table later.table := by
  cases upserted with
  | @added stored absent inserted =>
      have table := (Repository.insert_ok inserted).1
      obtain ⟨numbered, _, same⟩ := Table.insert_ok table
      obtain ⟨own, content⟩ := adds (IdWidth.ofSequence .i32 (repository.table.sequence + 1))
      rw [← numbered] at own content
      have unwanted : ∀ other ∈ repository.table.rows, wanted other = false := by
        simpa using List.find?_eq_none.mp absent
      refine ⟨stored, content, ?_, ?_, ?_⟩
      · rw [same]
        exact sound.ordered.only_wanted own fun other member _ => unwanted other member
      · rw [same]
        exact filter_putRow_others stored repository.table.rows
      · intro left
        have fresh := sound.fresh table left
        rw [same]
        exact unwanted_putRow own fun other member here => absurd here (fresh other member)
  | @edited row found updated =>
      have member := List.mem_of_find?_eq_some found
      have named := List.find?_some found
      obtain ⟨own, sameId, content⟩ := edits row named
      obtain ⟨_, unique, same⟩ := Table.update_ok (Repository.update_ok updated).1
      have free := (checkUnique_isOk repository.table.rows (edited row)).mp (by rw [unique]; rfl)
      refine ⟨edited row, content, ?_, ?_, ?_⟩
      · rw [same]
        refine sound.ordered.only_wanted own fun other known here => ?_
        rw [← Bool.not_eq_true]
        exact fun also => free other known here (key _ _ own also)
      · rw [same]
        exact filter_putRow_others (edited row) repository.table.rows
      · intro _
        rw [same]
        refine unwanted_putRow own fun other known here => ?_
        rw [sound.ordered.eq_of_id known member (here.trans sameId), named]

end Upserted

end LiveViews.Store
