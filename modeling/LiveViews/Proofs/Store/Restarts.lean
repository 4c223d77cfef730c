import LiveViews.Proofs.Store.Numbering
import LiveViews.Proofs.Store.Records

/-!
Restarts. A table on disk that is closed and opened again, at any points and any number of times, answers
all that is asked of it between as a table in memory does that is never closed
(`restarts_change_no_answer`).
-/

namespace LiveViews.Store

inductive StoreTask (α : Type) where
  | insert (row : α)
  | update (row : α)
  | get (wanted : α → Bool)
  | all

inductive StoreReply (α : Type) where
  | inserted (result : Except StoreError α)
  | updated (result : Except StoreError Unit)
  | found (row : Option α)
  | rows (rows : List α)

inductive StoreStep (α : Type) where
  | task (task : StoreTask α)
  | reopen

section Restarts

variable {α : Type} [Row α]

namespace Repository

def perform (repository : Repository α) : StoreTask α → StoreReply α × Repository α
  | .insert row =>
    match repository.insert row with
    | .ok (stored, later) => (.inserted (.ok stored), later)
    | .error error => (.inserted (.error error), repository)
  | .update row =>
    match repository.update row with
    | .ok later => (.updated (.ok ()), later)
    | .error error => (.updated (.error error), repository)
  | .get wanted => (.found (repository.table.find? wanted), repository)
  | .all => (.rows repository.table.rows, repository)

def replies (repository : Repository α) : List (StoreTask α) → List (StoreReply α)
  | [] => []
  | task :: rest => (repository.perform task).1 :: (repository.perform task).2.replies rest

/-- The replies to the tasks, if the table could be opened again each time. -/
def serve (repository : Repository α) : List (StoreStep α) → Except StoreError (List (StoreReply α))
  | [] => .ok []
  | .task task :: rest =>
    ((repository.perform task).2.serve rest).map ((repository.perform task).1 :: ·)
  | .reopen :: rest => repository.reopen.bind fun opened => opened.serve rest

end Repository

def tasksOf : List (StoreStep α) → List (StoreTask α)
  | [] => []
  | .task task :: rest => task :: tasksOf rest
  | .reopen :: rest => tasksOf rest

def StoreReply.isInserted : StoreReply α → Bool
  | .inserted (.ok _) => true
  | _ => false

def StoreTask.InRange [Recorded α] : StoreTask α → Prop
  | .insert row | .update row => Recorded.InRange row
  | .get _ | .all => True

instance [Recorded α] : DecidablePred (StoreTask.InRange (α := α))
  | .insert row | .update row => inferInstanceAs (Decidable (Recorded.InRange row))
  | .get _ | .all => inferInstanceAs (Decidable True)

def imageOf (rows : List α) : Disk :=
  rows.map fun row => (toSequence (Row.id row), rowText row)

/-- A repository that has all its rows on disk, in a form that can be read back. -/
structure Repository.Kept [Recorded α] (repository : Repository α) : Prop where
  numbered : Numbered repository.table.rows
  sequence : repository.table.sequence = repository.table.rows.length
  room : repository.table.rows.length < idLimit
  inRange : ∀ row ∈ repository.table.rows, Recorded.InRange row
  disk : repository.disk = some (imageOf repository.table.rows)

theorem toSequence_eq {id : Int} (least : 0 ≤ id) (below : id < sequenceBound) :
    (toSequence id : Int) = id := by
  unfold toSequence
  rw [Int.emod_eq_of_lt least below]
  omega

theorem imageOf_putRow {row : α} {rows : List α}
    (own : 0 ≤ Row.id row ∧ Row.id row < sequenceBound)
    (others : ∀ other ∈ rows, 0 ≤ Row.id other ∧ Row.id other < sequenceBound) :
    imageOf (putRow row rows) = (imageOf rows).put (toSequence (Row.id row)) (rowText row) := by
  have place := toSequence_eq own.1 own.2
  induction rows with
  | nil => rfl
  | cons first rest ih =>
      obtain ⟨least, below⟩ := others first List.mem_cons_self
      have firstPlace := toSequence_eq least below
      have later := ih fun other member => others other (List.mem_cons_of_mem _ member)
      unfold putRow
      by_cases less : Row.id row < Row.id first
      · have before : toSequence (Row.id row) < toSequence (Row.id first) := by omega
        rw [if_pos less]
        exact (if_pos before).symm
      · have behind : ¬toSequence (Row.id row) < toSequence (Row.id first) := by omega
        rw [if_neg less]
        by_cases same : Row.id row = Row.id first
        · have here : toSequence (Row.id row) = toSequence (Row.id first) := by omega
          rw [if_pos same]
          exact ((if_neg behind).trans (if_pos here)).symm
        · have elsewhere : toSequence (Row.id row) ≠ toSequence (Row.id first) := by omega
          rw [if_neg same]
          refine Eq.trans ?_ ((if_neg behind).trans (if_neg elsewhere)).symm
          exact congrArg ((toSequence (Row.id first), rowText first) :: ·) later

theorem Numbered.next {before after : List α} {row : α} (numbered : Numbered (before ++ row :: after)) :
    Row.id row = before.length + 1 := by
  have here := congrArg (fun ids => ids[before.length]?) numbered
  simpa using here

theorem Numbered.bounded {rows : List α} (numbered : Numbered rows) (room : rows.length < sequenceBound) :
    ∀ row ∈ rows, 0 ≤ Row.id row ∧ Row.id row < sequenceBound := by
  intro row member
  obtain ⟨count, below, same⟩ := numbered.exists_number member
  omega

theorem restore_next {before after : List α} {row : α} (numbered : Numbered (before ++ row :: after))
    (room : before.length + 1 < sequenceBound) :
    (Table.ofRows before).restore row = Table.ofRows (before ++ [row]) := by
  have id := numbered.next
  have place := toSequence_eq (show 0 ≤ Row.id row by omega) (by omega)
  have below : ∀ other ∈ before, Row.id other < Row.id row := by
    intro other member
    exact (List.pairwise_append.mp numbered.ordered).2.2 other member row List.mem_cons_self
  have last : max before.length (toSequence (Row.id row)) = before.length + 1 := by omega
  show (⟨putRow row before, max before.length (toSequence (Row.id row))⟩ : Table α) = _
  rw [putRow_of_below below, last, Table.ofRows, List.length_append, List.length_singleton]

theorem restored_imageOf [Recorded α] {rows : List α} (numbered : Numbered rows)
    (room : rows.length < sequenceBound) (inRange : ∀ row ∈ rows, Recorded.InRange row) :
    Repository.restored (imageOf rows) = .ok (Table.ofRows rows) := by
  unfold Repository.restored
  generalize restores : (fun (table : Table α) (entry : Nat × String) => _) = step
  have steps : ∀ (table : Table α) {row : α}, row ∈ rows →
      step table (toSequence (Row.id row), rowText row) = .ok (table.restore row) := by
    intro table row member
    rw [← restores]
    simp only [rowOfText?_rowText (inRange row member)]
  -- On what is still on disk: the rows before it are in the table, and none is left out.
  have goesOn : ∀ after before : List α, rows = before ++ after →
      (imageOf after).foldlM step (Table.ofRows before) = .ok (Table.ofRows rows) := by
    intro after
    induction after with
    | nil =>
        rintro before rfl
        rw [List.append_nil]
        rfl
    | cons row after ih =>
        intro before whole
        have placed : (Table.ofRows before).restore row = Table.ofRows (before ++ [row]) := by
          subst whole
          exact restore_next numbered (by
            rw [List.length_append, List.length_cons] at room
            omega)
        rw [imageOf, List.map_cons, List.foldlM_cons, steps _ (by simp [whole]), placed]
        exact ih (before ++ [row]) (by simp [whole])
  exact goesOn rows [] rfl

namespace Repository.Kept

variable [Recorded α] {repository : Repository α}

theorem opened : (⟨{}, some []⟩ : Repository α).Kept :=
  ⟨rfl, rfl, (by decide : 0 < idLimit), by simp, rfl⟩

theorem table_eq (kept : repository.Kept) :
    repository.table = Table.ofRows repository.table.rows := by
  rw [Table.ofRows, ← kept.sequence]

theorem reopen (kept : repository.Kept) : repository.reopen = .ok repository := by
  have room := kept.room
  have bound := idLimit_lt_sequenceBound
  have restored := restored_imageOf kept.numbered (by omega) kept.inRange
  rw [Repository.reopen, kept.disk]
  show (Repository.restored (imageOf repository.table.rows)).map _ = _
  rw [restored, ← kept.table_eq, ← kept.disk]
  rfl

theorem save (kept : repository.Kept) {row : α} {later : Table α}
    (placed : later.rows = putRow row repository.table.rows) (numbered : Numbered later.rows)
    (sequence : later.sequence = later.rows.length) (room : later.rows.length < idLimit)
    (inRange : Recorded.InRange row) : (repository.save row later).Kept := by
  have bound := idLimit_lt_sequenceBound
  refine ⟨numbered, sequence, room, ?_, ?_⟩
  · intro other member
    change other ∈ later.rows at member
    rw [placed] at member
    rcases mem_putRow member with rfl | old
    · exact inRange
    · exact kept.inRange other old
  · show repository.disk.map _ = some (imageOf later.rows)
    have own := numbered.bounded (by omega) row (placed ▸ mem_putRow_self row _)
    have before := kept.room
    rw [kept.disk, placed, imageOf_putRow own (kept.numbered.bounded (by omega))]
    rfl

variable [LawfulRow α]

theorem insert (kept : repository.Kept) {row stored : α} {later : Repository α}
    (inRange : Recorded.InRange row) (inserted : repository.insert row = .ok (stored, later))
    (left : repository.table.rows.length + 1 < idLimit) :
    later.Kept ∧ later.table.rows.length = repository.table.rows.length + 1 := by
  obtain ⟨placed, saved⟩ := insert_ok inserted
  obtain ⟨same, _, table⟩ := Table.insert_ok placed
  have filed : later.table = Table.ofRows ((RowChange.insert row).edit repository.table.rows) := by
    apply perform_eq kept.numbered (.insert row)
    · rw [← kept.table_eq, RowChange.perform, placed]
      rfl
    · rw [RowChange.edit, List.length_append]
      exact left
  have length : later.table.rows.length = repository.table.rows.length + 1 := by
    rw [filed]
    exact List.length_append
  rw [kept.sequence, ofSequence_below left] at same
  have fits : FitsId (repository.table.rows.length + 1) := by
    unfold idLimit at left
    unfold FitsId leastI32 greatestI32
    omega
  refine ⟨?_, length⟩
  rw [saved]
  apply kept.save
  · rw [table]
  · rw [filed]
    exact kept.numbered.append row
  · rw [filed]
    rfl
  · omega
  · rw [same]
    exact Recorded.inRange_withId row _ fits inRange

theorem update (kept : repository.Kept) {row : α} {later : Repository α}
    (inRange : Recorded.InRange row) (updated : repository.update row = .ok later) :
    later.Kept ∧ later.table.rows.length = repository.table.rows.length := by
  obtain ⟨placed, saved⟩ := update_ok updated
  obtain ⟨_, _, table⟩ := Table.update_ok placed
  have same : ((RowChange.update row).edit repository.table.rows).length =
      repository.table.rows.length := List.length_map _
  have filed : later.table = Table.ofRows ((RowChange.update row).edit repository.table.rows) := by
    apply perform_eq kept.numbered (.update row)
    · rw [← kept.table_eq, RowChange.perform, placed]
    · rw [same]
      exact kept.room
  have length : later.table.rows.length = repository.table.rows.length := by
    rw [filed]
    exact same
  have room := kept.room
  refine ⟨?_, length⟩
  rw [saved]
  apply kept.save
  · rw [table]
  · rw [filed]
    exact kept.numbered.replace row
  · rw [filed]
    rfl
  · omega
  · exact inRange

theorem perform (kept : repository.Kept) {task : StoreTask α} (inRange : task.InRange)
    (left : repository.table.rows.length +
      (if (repository.perform task).1.isInserted then 1 else 0) < idLimit) :
    (repository.perform task).2.Kept ∧ (repository.perform task).2.table.rows.length =
      repository.table.rows.length + if (repository.perform task).1.isInserted then 1 else 0 := by
  cases task with
  | insert row =>
      cases inserted : repository.insert row with
      | error error =>
          have refused : repository.perform (.insert row) = (.inserted (.error error), repository) := by
            simp [Repository.perform, inserted]
          rw [refused]
          exact ⟨kept, rfl⟩
      | ok answer =>
          have accepted : repository.perform (.insert row) = (.inserted (.ok answer.1), answer.2) := by
            simp [Repository.perform, inserted]
          rw [accepted] at left ⊢
          exact kept.insert inRange inserted left
  | update row =>
      cases updated : repository.update row with
      | error error =>
          have refused : repository.perform (.update row) = (.updated (.error error), repository) := by
            simp [Repository.perform, updated]
          rw [refused]
          exact ⟨kept, rfl⟩
      | ok later =>
          have accepted : repository.perform (.update row) = (.updated (.ok ()), later) := by
            simp [Repository.perform, updated]
          rw [accepted]
          exact kept.update inRange updated
  | get wanted => exact ⟨kept, rfl⟩
  | all => exact ⟨kept, rfl⟩

end Repository.Kept

/-- A table answers a task alike whether it is on disk or not. -/
theorem perform_inMemory (repository : Repository α) (task : StoreTask α) :
    (⟨repository.table, none⟩ : Repository α).perform task =
      ((repository.perform task).1, ⟨(repository.perform task).2.table, none⟩) := by
  cases task with
  | insert row =>
      simp only [Repository.perform, Repository.insert]
      cases repository.table.insert row <;> rfl
  | update row =>
      simp only [Repository.perform, Repository.update]
      cases repository.table.update row <;> rfl
  | get wanted => rfl
  | all => rfl

theorem Repository.Kept.serve [Recorded α] [LawfulRow α] {repository : Repository α}
    (kept : repository.Kept) (steps : List (StoreStep α))
    (inRange : ∀ task ∈ tasksOf steps, task.InRange)
    (few : repository.table.rows.length + ((⟨repository.table, none⟩ : Repository α).replies
      (tasksOf steps)).countP StoreReply.isInserted < idLimit) :
    repository.serve steps =
      .ok ((⟨repository.table, none⟩ : Repository α).replies (tasksOf steps)) := by
  induction steps generalizing repository with
  | nil => rfl
  | cons step rest ih =>
      cases step with
      | reopen =>
          rw [Repository.serve, kept.reopen]
          exact ih kept inRange few
      | task task =>
          rw [tasksOf, Repository.replies, perform_inMemory] at few ⊢
          rw [List.countP_cons] at few
          dsimp only at few ⊢
          obtain ⟨keptLater, length⟩ := kept.perform (inRange task List.mem_cons_self) (by omega)
          have later := ih keptLater (fun other member => inRange other (List.mem_cons_of_mem _ member))
            (by omega)
          rw [Repository.serve, later]
          rfl

/-- Opened on an empty disk, given any tasks whose rows are in range, and closed and opened again at any
points between them, a table can be opened each time and answers each task as a table in memory does
that is given the same tasks: until so many rows are inserted that their numbers no longer are ids. -/
theorem restarts_change_no_answer [Recorded α] [LawfulRow α] (steps : List (StoreStep α))
    (inRange : ∀ task ∈ tasksOf steps, task.InRange)
    (few : (({} : Repository α).replies (tasksOf steps)).countP StoreReply.isInserted < idLimit) :
    (Repository.openDisk []).bind (fun opened => opened.serve steps) =
      .ok (({} : Repository α).replies (tasksOf steps)) := by
  have opened : (Repository.openDisk [] : Except StoreError (Repository α)) = .ok ⟨{}, some []⟩ := rfl
  rw [opened]
  refine Repository.Kept.opened.serve steps inRange ?_
  show 0 + _ < _
  rw [Nat.zero_add]
  exact few

end Restarts

def pageSteps : List (StoreStep Page) :=
  [.task (.insert { name := "a", path := "/a", body := "\x22\n\x01", updatedAt := some (-7) }),
    .reopen,
    .task (.insert { name := "b", path := "/a", body := "B" }),
    .reopen,
    .task (.insert { name := "b", path := "/b", body := "B", layoutId := some 1 }),
    .task (.update { id := 2, name := "b", path := "/b", body := "", status := .deleted }),
    .task (.update { id := 3, name := "c", path := "/c", body := "C" }),
    .reopen,
    .reopen,
    .task (.get fun page => page.path = "/b"),
    .task (.insert { name := "c", path := "/c", body := "C" }),
    .task .all]

def layoutSteps : List (StoreStep Layout) :=
  [.task (.insert { name := "main", content := "\\", remark := "\t" }), .reopen,
    .task (.insert { name := "main", content := "C", status := .disabled }), .reopen, .task .all]

def widgetSteps : List (StoreStep Widget) :=
  [.task (.insert { name := "w", content := "W", createdAt := -9223372036854775808 }), .reopen,
    .task (.insert { name := "w", content := "" }), .reopen, .task .all]

theorem restarts_change_no_answer_shelves :
    ((Repository.openDisk []).bind (fun opened => opened.serve pageSteps) =
        .ok (({} : Repository Page).replies (tasksOf pageSteps)) ∧
      (Repository.openDisk []).bind (fun opened => opened.serve layoutSteps) =
        .ok (({} : Repository Layout).replies (tasksOf layoutSteps)) ∧
      (Repository.openDisk []).bind (fun opened => opened.serve widgetSteps) =
        .ok (({} : Repository Widget).replies (tasksOf widgetSteps))) := by
  refine ⟨?_, ?_, ?_⟩
  · exact restarts_change_no_answer pageSteps (by decide +kernel) (by decide +kernel)
  · exact restarts_change_no_answer layoutSteps (by decide +kernel) (by decide +kernel)
  · exact restarts_change_no_answer widgetSteps (by decide +kernel) (by decide +kernel)

end LiveViews.Store
