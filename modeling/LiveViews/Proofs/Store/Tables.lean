import LiveViews.Store.Repository

/-!
What inserts and updates do to the rows of a table. The rows of a sound table stand in the order of
their ids, and each id is that of a sequence number that was given out. This lasts for as many inserts
as there are ids.
-/

namespace LiveViews.Store

class LawfulRow (α : Type) [Row α] : Prop where
  id_withId : ∀ (row : α) (id : Int), Row.id (Row.withId row id) = id

instance : LawfulRow Page := ⟨fun _ _ => rfl⟩
instance : LawfulRow Layout := ⟨fun _ _ => rfl⟩
instance : LawfulRow Widget := ⟨fun _ _ => rfl⟩

def idCount : Nat := 4294967296

theorem ofSequence_ne {first second : Nat} (less : first < second) (near : second < first + idCount) :
    IdWidth.ofSequence .i32 first ≠ IdWidth.ofSequence .i32 second := by
  intro same
  have residue : (first : Int) % (idCount : Nat) = second % (idCount : Nat) := by
    rw [← Int.bmod_emod (x := first), ← Int.bmod_emod (x := second)]
    exact congrArg (· % ((idCount : Nat) : Int)) same
  unfold idCount at *
  omega

theorem ofSequence_injective {first second : Nat} (firstBound : first < idCount)
    (secondBound : second < idCount)
    (same : IdWidth.ofSequence .i32 first = IdWidth.ofSequence .i32 second) : first = second := by
  rcases Nat.lt_trichotomy first second with less | equal | greater
  · exact absurd same (ofSequence_ne less (by omega))
  · exact equal
  · exact absurd same.symm (ofSequence_ne greater (by omega))

variable {α : Type} [Row α]

theorem mem_putRow {row other : α} {rows : List α} (member : other ∈ putRow row rows) :
    other = row ∨ other ∈ rows := by
  induction rows with
  | nil => exact Or.inl (List.mem_singleton.mp member)
  | cons first rest ih =>
      unfold putRow at member
      split at member
      · exact (List.mem_cons.mp member).imp_right fun old => old
      · split at member
        · exact (List.mem_cons.mp member).imp_right (List.mem_cons_of_mem _)
        · rcases List.mem_cons.mp member with rfl | later
          · exact Or.inr List.mem_cons_self
          · exact (ih later).imp_right (List.mem_cons_of_mem _)

theorem mem_putRow_self (row : α) (rows : List α) : row ∈ putRow row rows := by
  induction rows with
  | nil => exact List.mem_singleton_self _
  | cons first rest ih =>
      unfold putRow
      split
      · exact List.mem_cons_self
      · split
        · exact List.mem_cons_self
        · exact List.mem_cons_of_mem _ ih

theorem find?_putRow {row : α} {rows : List α} {wanted : α → Bool} (unwanted : wanted row = false)
    (others : ∀ other ∈ rows, Row.id other = Row.id row → wanted other = false) :
    (putRow row rows).find? wanted = rows.find? wanted := by
  induction rows with
  | nil => simp [putRow, unwanted]
  | cons first rest ih =>
      unfold putRow
      split
      · rw [List.find?_cons, unwanted]
      · split
        next same =>
          have dropped := others first List.mem_cons_self same.symm
          rw [List.find?_cons, unwanted, List.find?_cons, dropped]
        next =>
          rw [List.find?_cons, List.find?_cons,
            ih fun other member => others other (List.mem_cons_of_mem _ member)]

def Ordered (rows : List α) : Prop :=
  rows.Pairwise fun first second => Row.id first < Row.id second

theorem Ordered.putRow {rows : List α} (ordered : Ordered rows) (row : α) :
    Ordered (putRow row rows) := by
  unfold Ordered at *
  induction rows with
  | nil => exact List.pairwise_singleton _ row
  | cons first rest ih =>
      obtain ⟨below, restOrdered⟩ := List.pairwise_cons.mp ordered
      unfold Store.putRow
      split
      next less =>
        refine List.pairwise_cons.mpr ⟨?_, ordered⟩
        intro other member
        rcases List.mem_cons.mp member with rfl | later
        · exact less
        · exact Int.lt_trans less (below other later)
      next notLess =>
        split
        next same =>
          refine List.pairwise_cons.mpr ⟨?_, restOrdered⟩
          intro other member
          rw [same]
          exact below other member
        next different =>
          refine List.pairwise_cons.mpr ⟨?_, ih restOrdered⟩
          intro other member
          rcases mem_putRow member with rfl | old
          · omega
          · exact below other old

theorem filter_putRow_others (row : α) (rows : List α) :
    (putRow row rows).filter (fun other => Row.id other ≠ Row.id row) =
      rows.filter fun other => Row.id other ≠ Row.id row := by
  induction rows with
  | nil => simp [putRow]
  | cons first rest ih =>
      unfold putRow
      split
      · exact List.filter_cons_of_neg (by simp)
      · split
        next same =>
          rw [List.filter_cons_of_neg (by simp), List.filter_cons_of_neg (by simp [same])]
        next => rw [List.filter_cons, List.filter_cons, ih]

theorem Ordered.filter_putRow_own {rows : List α} (ordered : Ordered rows) (row : α) :
    (Store.putRow row rows).filter (fun other => Row.id other = Row.id row) = [row] := by
  induction rows with
  | nil => simp [Store.putRow]
  | cons first rest ih =>
      obtain ⟨below, restOrdered⟩ := List.pairwise_cons.mp ordered
      have later : Row.id row ≤ Row.id first →
          rest.filter (fun other => Row.id other = Row.id row) = [] := by
        intro atMost
        refine List.filter_eq_nil_iff.mpr fun other member => ?_
        have less := below other member
        rw [decide_eq_true_eq]
        omega
      unfold Store.putRow
      split
      next less =>
        have apart : ¬Row.id first = Row.id row := by omega
        rw [List.filter_cons_of_pos (by simp), List.filter_cons_of_neg (by simpa using apart),
          later (by omega)]
      next notLess =>
        split
        next same => rw [List.filter_cons_of_pos (by simp), later (by omega)]
        next different =>
          rw [List.filter_cons_of_neg (by simpa using fun equal => different equal.symm),
            ih restOrdered]

theorem Ordered.eq_of_id {rows : List α} (ordered : Ordered rows) {first second : α}
    (firstMem : first ∈ rows) (secondMem : second ∈ rows) (same : Row.id first = Row.id second) :
    first = second := by
  induction rows with
  | nil => simp at firstMem
  | cons head rest ih =>
      obtain ⟨below, restOrdered⟩ := List.pairwise_cons.mp ordered
      rcases List.mem_cons.mp firstMem with rfl | firstLater <;>
        rcases List.mem_cons.mp secondMem with rfl | secondLater
      · rfl
      · exact absurd same (Int.ne_of_lt (below second secondLater))
      · exact absurd same.symm (Int.ne_of_lt (below first firstLater))
      · exact ih restOrdered firstLater secondLater

theorem putRow_of_below {row : α} {rows : List α} (below : ∀ other ∈ rows, Row.id other < Row.id row) :
    putRow row rows = rows ++ [row] := by
  induction rows with
  | nil => rfl
  | cons first rest ih =>
      have less := below first List.mem_cons_self
      have later := ih fun other member => below other (List.mem_cons_of_mem _ member)
      unfold putRow
      rw [if_neg (by omega), if_neg (by omega), later]
      rfl

theorem putRow_eq_map {row : α} {rows : List α} (ordered : Ordered rows)
    (known : ∃ other ∈ rows, Row.id other = Row.id row) :
    putRow row rows = rows.map fun other => if Row.id other = Row.id row then row else other := by
  induction rows with
  | nil => simp at known
  | cons first rest ih =>
      obtain ⟨below, restOrdered⟩ := List.pairwise_cons.mp ordered
      unfold putRow
      by_cases same : Row.id first = Row.id row
      · have others : rest.map (fun other => if Row.id other = Row.id row then row else other) =
            rest := by
          refine (List.map_congr_left fun other member => ?_).trans (List.map_id rest)
          have later := below other member
          rw [if_neg (by omega)]
          rfl
        rw [if_neg (by omega), if_pos same.symm, List.map_cons, if_pos same, others]
      · have later : ∃ other ∈ rest, Row.id other = Row.id row := by
          obtain ⟨other, member, equal⟩ := known
          rcases List.mem_cons.mp member with rfl | inside
          · exact absurd equal same
          · exact ⟨other, inside, equal⟩
        obtain ⟨other, member, equal⟩ := later
        have less := below other member
        rw [if_neg (by omega), if_neg (by omega), List.map_cons, if_neg same,
          ih restOrdered ⟨other, member, equal⟩]

namespace Table

theorem insert_eq {table : Table α} (row : α) (left : table.sequence + 1 < sequenceBound) :
    table.insert row =
      (checkUnique table.rows (Row.withId row (IdWidth.ofSequence .i32 (table.sequence + 1)))).map
        fun _ =>
          let stored := Row.withId row (IdWidth.ofSequence .i32 (table.sequence + 1))
          (stored, ⟨putRow stored table.rows, table.sequence + 1⟩) := by
  unfold insert
  dsimp only
  rw [if_neg (Nat.not_le.mpr left)]
  cases checkUnique table.rows (Row.withId row (IdWidth.ofSequence .i32 (table.sequence + 1))) <;> rfl

theorem update_eq {table : Table α} {row : α} (known : ∃ other ∈ table.rows, Row.id other = Row.id row) :
    table.update row =
      (checkUnique table.rows row).map fun _ => { table with rows := putRow row table.rows } := by
  have present : (table.rows.any fun other => Row.id other = Row.id row) = true := by
    simpa using known
  unfold update
  rw [if_pos present]
  cases checkUnique table.rows row <;> rfl

structure Sound (table : Table α) : Prop where
  ordered : Ordered table.rows
  numbered : ∀ row ∈ table.rows, ∃ number, 1 ≤ number ∧ number ≤ table.sequence ∧
    Row.id row = IdWidth.ofSequence .i32 number

theorem sound_new : ({} : Table α).Sound :=
  ⟨List.Pairwise.nil, by simp⟩

theorem insert_ok {table later : Table α} {row stored : α}
    (inserted : table.insert row = .ok (stored, later)) :
    stored = Row.withId row (IdWidth.ofSequence .i32 (table.sequence + 1)) ∧
      checkUnique table.rows stored = .ok () ∧
      later = ⟨putRow stored table.rows, table.sequence + 1⟩ := by
  unfold insert at inserted
  dsimp only at inserted
  split at inserted
  · cases inserted
  · cases checked : checkUnique table.rows
      (Row.withId row (IdWidth.ofSequence .i32 (table.sequence + 1))) with
    | error error => simp [checked, bind, Except.bind] at inserted
    | ok _ =>
        simp only [checked, bind, Except.bind, pure, Except.pure, Except.ok.injEq, Prod.mk.injEq]
          at inserted
        obtain ⟨rfl, rfl⟩ := inserted
        exact ⟨rfl, checked, rfl⟩

theorem update_ok {table later : Table α} {row : α} (updated : table.update row = .ok later) :
    (∃ other ∈ table.rows, Row.id other = Row.id row) ∧ checkUnique table.rows row = .ok () ∧
      later = { table with rows := putRow row table.rows } := by
  unfold update at updated
  split at updated
  next known =>
    cases checked : checkUnique table.rows row with
    | error error => simp [checked, bind, Except.bind] at updated
    | ok _ =>
        simp only [checked, bind, Except.bind, pure, Except.pure, Except.ok.injEq] at updated
        obtain ⟨other, member, same⟩ := List.any_eq_true.mp known
        exact ⟨⟨other, member, of_decide_eq_true same⟩, rfl, updated.symm⟩
  next => cases updated

theorem Sound.update {table later : Table α} (sound : table.Sound) {row : α}
    (updated : table.update row = .ok later) : later.Sound := by
  obtain ⟨⟨other, otherMem, sameId⟩, _, rfl⟩ := update_ok updated
  refine ⟨sound.ordered.putRow row, ?_⟩
  intro each member
  rcases mem_putRow member with rfl | old
  · rw [← sameId]
    exact sound.numbered other otherMem
  · exact sound.numbered each old

theorem Sound.insert [LawfulRow α] {table later : Table α} (sound : table.Sound) {row stored : α}
    (inserted : table.insert row = .ok (stored, later)) : later.Sound := by
  obtain ⟨rfl, _, rfl⟩ := insert_ok inserted
  refine ⟨sound.ordered.putRow _, ?_⟩
  intro each member
  rcases mem_putRow member with rfl | old
  · exact ⟨table.sequence + 1, by omega, Nat.le_refl _, LawfulRow.id_withId _ _⟩
  · obtain ⟨number, positive, bound, same⟩ := sound.numbered each old
    exact ⟨number, positive, Nat.le_succ_of_le bound, same⟩

theorem Sound.fresh [LawfulRow α] {table later : Table α} (sound : table.Sound) {row stored : α}
    (inserted : table.insert row = .ok (stored, later)) (left : later.sequence < idCount) :
    ∀ other ∈ table.rows, Row.id other ≠ Row.id stored := by
  obtain ⟨rfl, _, rfl⟩ := insert_ok inserted
  intro other member same
  obtain ⟨number, _, bound, numbered⟩ := sound.numbered other member
  rw [LawfulRow.id_withId, numbered] at same
  dsimp only at left
  have equal := ofSequence_injective (by omega) left same
  omega

end Table

namespace Repository

variable {α : Type} [Row α]

theorem insert_ok {repository later : Repository α} {row stored : α}
    (inserted : repository.insert row = .ok (stored, later)) :
    repository.table.insert row = .ok (stored, later.table) ∧
      later = repository.save stored later.table := by
  unfold insert at inserted
  cases answer : repository.table.insert row with
  | error error => simp [answer, Except.map] at inserted
  | ok placed =>
      simp only [answer, Except.map, Except.ok.injEq, Prod.mk.injEq] at inserted
      obtain ⟨rfl, rfl⟩ := inserted
      exact ⟨rfl, rfl⟩

theorem update_ok {repository later : Repository α} {row : α}
    (updated : repository.update row = .ok later) :
    repository.table.update row = .ok later.table ∧ later = repository.save row later.table := by
  unfold update at updated
  cases answer : repository.table.update row with
  | error error => simp [answer, Except.map] at updated
  | ok table =>
      simp only [answer, Except.map, Except.ok.injEq] at updated
      subst updated
      exact ⟨rfl, rfl⟩

end Repository

end LiveViews.Store
