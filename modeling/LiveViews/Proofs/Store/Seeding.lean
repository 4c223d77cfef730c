import LiveViews.Proofs.Store.Filing

/-!
Seeding as a merge. The rows of a seed are taken in order, and a row is let in unless a row that is
there by then holds a unique value of it (`letIn`). What was stored before stays as it is, and a seed
that is taken once more brings in its layouts only (`seeds_greedily`).
-/

namespace LiveViews.Store

section Greedy

variable {α : Type} {taken also : α → α → Prop} [DecidableRel taken] [DecidableRel also]
variable {stored held rows : List α}

/-- The rows that are let in one after another: those that no row bars that is stored by then. -/
def letIn (taken : α → α → Prop) [DecidableRel taken] (stored : List α) : List α → List α
  | [] => []
  | row :: rest =>
    if ∃ other ∈ stored, taken row other then letIn taken stored rest
    else row :: letIn taken (stored ++ [row]) rest

theorem letIn_congr (same : ∀ row other, taken row other ↔ also row other)
    (bars : ∀ row, (∃ other ∈ stored, taken row other) ↔ ∃ other ∈ held, also row other) :
    letIn taken stored rows = letIn also held rows := by
  induction rows generalizing stored held with
  | nil => rfl
  | cons row rest ih =>
      have longer : ∀ next, (∃ other ∈ stored ++ [row], taken next other) ↔
          ∃ other ∈ held ++ [row], also next other := by
        intro next
        simp only [List.mem_append, List.mem_singleton, or_and_right, exists_or, exists_eq_left]
        exact or_congr (bars next) (same next row)
      rw [letIn, letIn, ih bars, ih longer]
      exact if_congr (bars row) rfl rfl

theorem letIn_of_barred (barred : ∀ row ∈ rows, ∃ other ∈ stored, taken row other) :
    letIn taken stored rows = [] := by
  induction rows with
  | nil => rfl
  | cons row rest ih =>
      rw [letIn, if_pos (barred row List.mem_cons_self)]
      exact ih fun other member => barred other (List.mem_cons_of_mem _ member)

theorem letIn_of_free (free : ∀ row other, ¬taken row other) : letIn taken stored rows = rows := by
  induction rows generalizing stored with
  | nil => rfl
  | cons row rest ih =>
      rw [letIn, if_neg (fun ⟨other, _, bars⟩ => free row other bars), ih]

theorem letIn_subset : letIn taken stored rows ⊆ rows := by
  induction rows generalizing stored with
  | nil => exact List.nil_subset _
  | cons row rest ih =>
      rw [letIn]
      split
      · exact List.subset_cons_of_subset _ ih
      · exact List.cons_subset_cons _ ih

theorem barred_after (own : ∀ row ∈ rows, taken row row) :
    ∀ row ∈ rows, ∃ other ∈ stored ++ letIn taken stored rows, taken row other := by
  induction rows generalizing stored with
  | nil => simp
  | cons first rest ih =>
      have ownRest := fun row member => own row (List.mem_cons_of_mem first member)
      intro row member
      rw [letIn]
      split
      next barred =>
        rcases List.mem_cons.mp member with rfl | later
        · obtain ⟨other, inside, bars⟩ := barred
          exact ⟨other, List.mem_append_left _ inside, bars⟩
        · exact ih ownRest row later
      next =>
        rcases List.mem_cons.mp member with rfl | later
        · exact ⟨row, List.mem_append_right _ List.mem_cons_self, own row List.mem_cons_self⟩
        · have barred := @ih (stored ++ [first]) ownRest row later
          rwa [List.append_assoc, List.singleton_append] at barred

end Greedy

variable {α : Type} [Row α]

def numberFrom (sequence : Nat) : List α → List α
  | [] => []
  | row :: rest =>
    Row.withId row (IdWidth.ofSequence .i32 (sequence + 1)) :: numberFrom (sequence + 1) rest

theorem mem_numberFrom {sequence : Nat} {rows : List α} {stored : α}
    (member : stored ∈ numberFrom sequence rows) : ∃ row ∈ rows, ∃ id, stored = Row.withId row id := by
  induction rows generalizing sequence with
  | nil => cases member
  | cons row rest ih =>
      rcases List.mem_cons.mp member with rfl | later
      · exact ⟨row, List.mem_cons_self, _, rfl⟩
      · obtain ⟨other, inside, id, same⟩ := ih later
        exact ⟨other, List.mem_cons_of_mem _ inside, id, same⟩

theorem length_numberFrom (sequence : Nat) (rows : List α) :
    (numberFrom sequence rows).length = rows.length := by
  induction rows generalizing sequence with
  | nil => rfl
  | cons row rest ih => rw [numberFrom, List.length_cons, ih, List.length_cons]

theorem shares_numberFrom [LawfulKeys α] {sequence : Nat} {rows : List α} {row : α} :
    (∃ other ∈ numberFrom sequence rows, Shares row other) ↔ ∃ other ∈ rows, Shares row other := by
  induction rows generalizing sequence with
  | nil => rfl
  | cons first rest ih =>
      have head (id : Int) : Shares row (Row.withId first id) ↔ Shares row first :=
        ⟨fun shares => (shares_withId.mp shares.symm).symm,
          fun shares => (shares_withId.mpr shares.symm).symm⟩
      simp only [numberFrom, List.exists_mem_cons_iff, head, ih]

theorem putRow_split {row : α} {rows : List α} (fresh : ∀ other ∈ rows, Row.id other ≠ Row.id row) :
    ∃ front back, rows = front ++ back ∧ putRow row rows = front ++ row :: back := by
  induction rows with
  | nil => exact ⟨[], [], rfl, rfl⟩
  | cons first rest ih =>
      unfold putRow
      split
      · exact ⟨[], first :: rest, rfl, rfl⟩
      · obtain ⟨front, back, before, after⟩ := ih fun other member =>
          fresh other (List.mem_cons_of_mem _ member)
        rw [if_neg (fresh first List.mem_cons_self).symm]
        exact ⟨first :: front, back, congrArg _ before, congrArg _ after⟩

theorem checkUnique_error {rows : List α} {row : α} {error : StoreError}
    (refused : checkUnique rows row = .error error) :
    ∃ column value, error = .duplicate (Row.table α) column value := by
  unfold checkUnique at refused
  dsimp only at refused
  split at refused
  next column value _ =>
    cases refused
    exact ⟨column, value, rfl⟩
  next => cases refused

namespace Table

variable {table later : Table α} {count : Nat}

/-- The next ids, so many of them, are nobody's. -/
structure Room (table : Table α) (count : Nat) : Prop where
  sequence : table.sequence + count < sequenceBound
  ids : count ≤ idCount
  fresh : ∀ number, table.sequence < number → number ≤ table.sequence + count →
    ∀ other ∈ table.rows, Row.id other ≠ IdWidth.ofSequence .i32 number

theorem Sound.room (sound : table.Sound) (left : table.sequence + count < idCount) :
    table.Room count := by
  refine ⟨by unfold idCount at left; unfold sequenceBound; omega, by omega, ?_⟩
  intro number above atMost other member same
  obtain ⟨known, _, bound, numbered⟩ := sound.numbered other member
  rw [numbered] at same
  have equal := ofSequence_injective (by omega) (by omega) same
  omega

theorem Room.mono {fewer : Nat} (room : table.Room count) (less : fewer ≤ count) :
    table.Room fewer where
  sequence := by have := room.sequence; omega
  ids := Nat.le_trans less room.ids
  fresh number above atMost := room.fresh number above (by omega)

def numbered (table : Table α) (row : α) : α :=
  Row.withId row (IdWidth.ofSequence .i32 (table.sequence + 1))

def withNext (table : Table α) (row : α) : Table α :=
  ⟨putRow (table.numbered row) table.rows, table.sequence + 1⟩

/-- What rows that were let in make of a table: they are added under the next ids, in their order. -/
structure Gains (table later : Table α) (rows : List α) : Prop where
  kept : table.rows.Sublist later.rows
  filed : later.rows.Perm (table.rows ++ numberFrom table.sequence rows)
  sequence : later.sequence = table.sequence + rows.length

namespace Gains

variable {rows : List α}

theorem nothing (table : Table α) : table.Gains table [] :=
  ⟨List.Sublist.refl _, by rw [numberFrom, List.append_nil], rfl⟩

theorem first {row : α} (fresh : ∀ other ∈ table.rows, Row.id other ≠ Row.id (table.numbered row))
    (gains : (table.withNext row).Gains later rows) : table.Gains later (row :: rows) := by
  obtain ⟨front, back, before, after⟩ := putRow_split fresh
  have put : (table.withNext row).rows = front ++ table.numbered row :: back := after
  refine ⟨?_, ?_, ?_⟩
  · refine List.Sublist.trans ?_ gains.kept
    rw [before, put]
    exact List.Sublist.append (List.Sublist.refl _) (List.sublist_cons_self _ _)
  · have moved : (table.withNext row).rows.Perm (table.rows ++ [table.numbered row]) := by
      rw [before, put, List.append_assoc]
      exact List.Perm.append_left _ (List.perm_append_singleton _ _).symm
    refine gains.filed.trans ((moved.append_right _).trans ?_)
    rw [List.append_assoc]
    exact List.Perm.refl _
  · rw [gains.sequence, List.length_cons]
    show table.sequence + 1 + rows.length = _
    omega

theorem length (gains : table.Gains later rows) :
    later.rows.length = table.rows.length + rows.length := by
  rw [gains.filed.length_eq, List.length_append, length_numberFrom]

theorem shares [LawfulKeys α] (gains : table.Gains later rows) (row : α) :
    (∃ other ∈ later.rows, Shares row other) ↔ ∃ other ∈ table.rows ++ rows, Shares row other := by
  simp only [gains.filed.mem_iff, List.mem_append, or_and_right, exists_or, shares_numberFrom]

theorem mem (gains : table.Gains later rows) {stored : α} (member : stored ∈ later.rows) :
    stored ∈ table.rows ∨ ∃ row ∈ rows, ∃ id, stored = Row.withId row id :=
  (List.mem_append.mp (gains.filed.mem_iff.mp member)).imp_right mem_numberFrom

end Gains

variable [LawfulRow α]

theorem Room.next (room : table.Room (count + 1)) (row : α) :
    ∀ other ∈ table.rows, Row.id other ≠ Row.id (table.numbered row) := by
  intro other member
  rw [numbered, LawfulRow.id_withId]
  exact room.fresh _ (by omega) (by omega) other member

theorem Room.withNext (room : table.Room (count + 1)) (row : α) :
    (table.withNext row).Room count where
  sequence := by
    have := room.sequence
    show table.sequence + 1 + count < sequenceBound
    omega
  ids := Nat.le_of_succ_le room.ids
  fresh := by
    have ids := room.ids
    intro number above atMost other member
    replace above : table.sequence + 1 < number := above
    replace atMost : number ≤ table.sequence + 1 + count := atMost
    rcases mem_putRow member with rfl | old
    · rw [numbered, LawfulRow.id_withId]
      exact ofSequence_ne above (by omega)
    · exact room.fresh number (by omega) (by omega) other old

theorem checkUnique_next [LawfulKeys α] (room : table.Room (count + 1)) (row : α) :
    (checkUnique table.rows (table.numbered row)).isOk = true ↔
      ¬∃ other ∈ table.rows, Shares row other := by
  rw [checkUnique_isOk]
  constructor
  · rintro free ⟨other, member, shares⟩
    exact free other member (room.next row other member) (shares_withId.mpr shares)
  · intro free other member _ shares
    exact free ⟨other, member, shares_withId.mp shares⟩

end Table

namespace Repository

def withNext (repository : Repository α) (row : α) : Repository α :=
  repository.save (repository.table.numbered row) (repository.table.withNext row)

variable {repository : Repository α} {count : Nat}

theorem insert_next (room : repository.table.Room (count + 1)) (row : α) :
    repository.insert row =
      (checkUnique repository.table.rows (repository.table.numbered row)).map fun _ =>
        (repository.table.numbered row, repository.withNext row) := by
  have left : repository.table.sequence + 1 < sequenceBound := by
    have := room.sequence
    omega
  rw [insert, Table.insert_eq row left]
  unfold Table.numbered
  cases checkUnique repository.table.rows _ <;> rfl

variable [LawfulRow α] [LawfulKeys α]

theorem insert_barred (room : repository.table.Room (count + 1)) {row : α}
    (barred : ∃ other ∈ repository.table.rows, Shares row other) :
    ∃ column value, repository.insert row = .error (.duplicate (Row.table α) column value) := by
  rw [insert_next room]
  cases checked : checkUnique repository.table.rows (repository.table.numbered row) with
  | ok _ => exact absurd barred ((Table.checkUnique_next room row).mp (by rw [checked]; rfl))
  | error error =>
      obtain ⟨column, value, rfl⟩ := checkUnique_error checked
      exact ⟨column, value, rfl⟩

theorem insert_free (room : repository.table.Room (count + 1)) {row : α}
    (free : ¬∃ other ∈ repository.table.rows, Shares row other) :
    repository.insert row = .ok (repository.table.numbered row, repository.withNext row) := by
  have passes := (Table.checkUnique_next room row).mpr free
  rw [insert_next room]
  cases checked : checkUnique repository.table.rows (repository.table.numbered row) with
  | ok _ => rfl
  | error error =>
      rw [checked] at passes
      cases passes

theorem letIn_withNext (room : repository.table.Room (count + 1)) (row : α) (rest : List α) :
    letIn Shares (repository.withNext row).table.rows rest =
      letIn Shares (repository.table.rows ++ [row]) rest := by
  have gains : repository.table.Gains (repository.withNext row).table [row] :=
    .first (room.next row) (.nothing _)
  exact letIn_congr (fun _ _ => Iff.rfl) gains.shares

end Repository

namespace Seed

section Rows

variable [LawfulRow α] [LawfulKeys α]

/-- The rows are let in one after another, and those that are let in are counted. -/
theorem addRows_eq {rows : List α} {repository : Repository α} {more : Nat}
    (room : repository.table.Room (rows.length + more)) :
    ∃ later, addRows rows repository =
        .ok ((letIn Shares repository.table.rows rows).length, later) ∧
      repository.table.Gains later.table (letIn Shares repository.table.rows rows) ∧
      later.table.Room more ∧
      (letIn Shares repository.table.rows rows = [] → later = repository) := by
  rw [← Nat.zero_add (letIn _ _ _).length]
  unfold addRows
  generalize 0 = start
  -- On the rows: one that is let in is among those that may bar the next ones.
  induction rows generalizing start repository with
  | nil => exact ⟨repository, rfl, .nothing _, room.mono (Nat.le_add_left _ _), fun _ => rfl⟩
  | cons row rest ih =>
      rw [List.length_cons, Nat.succ_add] at room
      rw [List.foldlM_cons]
      dsimp only
      by_cases barred : ∃ other ∈ repository.table.rows, Shares row other
      · obtain ⟨column, value, refused⟩ := Repository.insert_barred room barred
        rw [refused, letIn, if_pos barred]
        exact ih (room.mono (Nat.le_succ _)) start
      · obtain ⟨later, count, gains, left, _⟩ :=
          @ih (repository.withNext row) (room.withNext row) (start + 1)
        rw [Repository.letIn_withNext room] at count gains
        rw [Nat.add_assoc, Nat.add_comm 1] at count
        rw [Repository.insert_free room barred, letIn, if_neg barred]
        exact ⟨later, count, .first (room.next row) gains, left, nofun⟩

variable {rows again : List α} {repository later : Repository α}

theorem addRows_all (rows : List α) (free : ∀ row other : α, ¬Shares row other) {more : Nat}
    (room : repository.table.Room (rows.length + more)) :
    ∃ later, addRows rows repository = .ok (rows.length, later) ∧
      repository.table.Gains later.table rows ∧ later.table.Room more := by
  obtain ⟨later, added, gains, left, _⟩ := addRows_eq room
  rw [letIn_of_free free] at added gains
  exact ⟨later, added, gains, left⟩

/-- Rows whose values were all brought in before bring in nothing. -/
theorem addRows_again {table : Table α}
    (gains : table.Gains later.table (letIn Shares table.rows rows))
    (own : ∀ row ∈ rows, Shares row row)
    (keys : again.map Row.uniqueKeys = rows.map Row.uniqueKeys)
    (room : later.table.Room again.length) : addRows again later = .ok (0, later) := by
  have barred : ∀ row ∈ again, ∃ other ∈ later.table.rows, Shares row other := by
    intro row member
    have known : Row.uniqueKeys row ∈ again.map Row.uniqueKeys := List.mem_map_of_mem member
    rw [keys] at known
    obtain ⟨first, inside, same⟩ := List.mem_map.mp known
    unfold Shares
    rw [← same]
    exact (gains.shares first).mpr (barred_after own first inside)
  have nothing := letIn_of_barred barred
  obtain ⟨_, added, _, _, unchanged⟩ := addRows_eq (show later.table.Room (_ + 0) from room)
  rw [added, unchanged nothing, nothing]
  rfl

theorem addRows_once (rows : List α) {taken : α → α → Prop} [DecidableRel taken]
    (same : ∀ row other, Shares row other ↔ taken row other) (own : ∀ row, taken row row)
    (room : repository.table.Room (rows.length + rows.length)) :
    let news := letIn taken repository.table.rows rows
    ∃ later, addRows rows repository = .ok (news.length, later) ∧
      repository.table.Gains later.table news ∧
      ∀ again : List α, again.map Row.uniqueKeys = rows.map Row.uniqueKeys →
        addRows again later = .ok (0, later) := by
  intro news
  have sameNews : letIn Shares repository.table.rows rows = news :=
    letIn_congr same fun row => by simp only [same]
  obtain ⟨later, added, gains, left, _⟩ := addRows_eq room
  refine ⟨later, by rw [added, sameNews], by rwa [sameNews] at gains, fun again keys => ?_⟩
  have sameLength := congrArg List.length keys
  rw [List.length_map, List.length_map] at sameLength
  exact addRows_again gains (fun row _ => (same row row).mpr (own row)) keys (by rwa [sameLength])

end Rows

theorem addTo_eq {seed : Seed} {extension : String} {now : Int} {stores later : Stores}
    {layoutCount pageCount widgetCount : Nat}
    (layouts : addRows (seed.layoutRows now) stores.layouts = .ok (layoutCount, later.layouts))
    (pages : addRows (seed.pageRows extension now) stores.pages = .ok (pageCount, later.pages))
    (widgets : addRows (seed.widgetRows now) stores.widgets = .ok (widgetCount, later.widgets)) :
    seed.addTo extension now stores = .ok (layoutCount + pageCount + widgetCount, later) := by
  unfold addTo
  rw [layouts, pages, widgets]
  rfl

end Seed

/-- Another page holds the name or the path of this one. -/
def Page.TakenBy (page other : Page) : Prop :=
  page.name = other.name ∨ page.path = other.path

def Widget.TakenBy (widget other : Widget) : Prop :=
  widget.name = other.name

instance : DecidableRel Page.TakenBy := fun page other =>
  inferInstanceAs (Decidable (page.name = other.name ∨ page.path = other.path))

instance : DecidableRel Widget.TakenBy := fun widget other =>
  inferInstanceAs (Decidable (widget.name = other.name))

theorem shares_page (page other : Page) : Shares page other ↔ page.TakenBy other := by
  simp [Shares, Row.uniqueKeys, Page.TakenBy]

theorem shares_widget (widget other : Widget) : Shares widget other ↔ widget.TakenBy other := by
  simp [Shares, Row.uniqueKeys, Widget.TakenBy]

theorem not_shares_layout (layout other : Layout) : ¬Shares layout other := by
  simp [Shares, Row.uniqueKeys]

namespace Stores

def rowCount (stores : Stores) : Nat :=
  stores.layouts.table.rows.length + stores.pages.table.rows.length +
    stores.widgets.table.rows.length

/-- Ids are left for the rows of a seed, and for as many once more. -/
structure RoomFor (stores : Stores) (seed : Seed) : Prop where
  layouts : stores.layouts.table.Room (seed.layouts.length + seed.layouts.length)
  pages : stores.pages.table.Room (seed.pages.length + seed.pages.length)
  widgets : stores.widgets.table.Room (seed.widgets.length + seed.widgets.length)

end Stores

namespace Seed

section Stamps

variable (seed : Seed) (extension : String) (now moment : Int)

theorem length_layoutRows : (seed.layoutRows now).length = seed.layouts.length :=
  List.length_map _

theorem length_pageRows : (seed.pageRows extension now).length = seed.pages.length :=
  List.length_map _

theorem length_widgetRows : (seed.widgetRows now).length = seed.widgets.length :=
  List.length_map _

theorem pageRows_keys : (seed.pageRows extension moment).map Row.uniqueKeys =
    (seed.pageRows extension now).map Row.uniqueKeys := by
  unfold pageRows
  rw [List.map_map, List.map_map]
  rfl

theorem widgetRows_keys : (seed.widgetRows moment).map Row.uniqueKeys =
    (seed.widgetRows now).map Row.uniqueKeys := by
  unfold widgetRows
  rw [List.map_map, List.map_map]
  rfl

end Stamps

/-- A seed is merged into the stores: every layout is added, a page unless its name or its normal
path is held by then, a widget unless its name is. What is answered is how many rows there are more,
and what was stored stays as it was. A page is stored at its normal path, and with the present for a
creation time of zero. The same seed once more, at whatever moment, adds its layouts only.

An id is a word of 32 bits: a table that gave out all of them would put a new row in the place of an
old one, so that ids have to be left. In tables that were filled by inserts and updates they are, as
long as fewer were given out than there are (`Table.Sound.room`). -/
theorem seeds_greedily (seed : Seed) (extension : String) (now : Int) (stores : Stores)
    (room : stores.RoomFor seed) :
    let layouts := seed.layoutRows now
    let pages := letIn Page.TakenBy stores.pages.table.rows (seed.pageRows extension now)
    let widgets := letIn Widget.TakenBy stores.widgets.table.rows (seed.widgetRows now)
    ∃ later,
      seed.addTo extension now stores =
        .ok (layouts.length + pages.length + widgets.length, later) ∧
      later.rowCount = stores.rowCount + (layouts.length + pages.length + widgets.length) ∧
      stores.layouts.table.Gains later.layouts.table layouts ∧
      stores.pages.table.Gains later.pages.table pages ∧
      stores.widgets.table.Gains later.widgets.table widgets ∧
      (∀ stored ∈ later.pages.table.rows, stored ∈ stores.pages.table.rows ∨
        ∃ page ∈ seed.pages, ∃ id, stored = { page with
          id := id
          path := View.normalPath extension page.path
          createdAt := if page.createdAt = 0 then now else page.createdAt }) ∧
      ∀ moment, ∃ again,
        seed.addTo extension moment later = .ok (seed.layouts.length, again) ∧
        later.layouts.table.Gains again.layouts.table (seed.layoutRows moment) ∧
        again.pages = later.pages ∧ again.widgets = later.widgets := by
  intro layouts pages widgets
  obtain ⟨laterLayouts, layoutsAdded, layoutsGain, layoutsLeft⟩ :=
    addRows_all (seed.layoutRows now) not_shares_layout
      (by rw [length_layoutRows]; exact room.layouts)
  obtain ⟨laterPages, pagesAdded, pagesGain, pagesAgain⟩ :=
    addRows_once (seed.pageRows extension now) shares_page (fun _ => .inl rfl)
      (by rw [length_pageRows]; exact room.pages)
  obtain ⟨laterWidgets, widgetsAdded, widgetsGain, widgetsAgain⟩ :=
    addRows_once (seed.widgetRows now) shares_widget (fun _ => rfl)
      (by rw [length_widgetRows]; exact room.widgets)
  refine ⟨⟨laterPages, laterLayouts, laterWidgets⟩, addTo_eq layoutsAdded pagesAdded widgetsAdded, ?_,
    layoutsGain, pagesGain, widgetsGain, ?_, ?_⟩
  · have layoutCount : _ = _ + layouts.length := layoutsGain.length
    have pageCount : _ = _ + pages.length := pagesGain.length
    have widgetCount : _ = _ + widgets.length := widgetsGain.length
    rw [Stores.rowCount, layoutCount, pageCount, widgetCount, Stores.rowCount]
    omega
  · intro stored member
    refine (pagesGain.mem member).imp_right fun ⟨row, taken, id, same⟩ => ?_
    obtain ⟨page, inside, rfl⟩ := List.mem_map.mp (letIn_subset taken)
    exact ⟨page, inside, id, same⟩
  · intro moment
    obtain ⟨again, added, gains, _⟩ := addRows_all (seed.layoutRows moment) not_shares_layout
      (by rw [length_layoutRows]; exact show laterLayouts.table.Room (_ + 0) from layoutsLeft)
    rw [length_layoutRows] at added
    have pagesSame := pagesAgain _ (seed.pageRows_keys extension now moment)
    have widgetsSame := widgetsAgain _ (seed.widgetRows_keys now moment)
    have addedAgain : seed.addTo extension moment ⟨laterPages, laterLayouts, laterWidgets⟩ =
        .ok (seed.layouts.length + 0 + 0, ⟨laterPages, again, laterWidgets⟩) :=
      addTo_eq added pagesSame widgetsSame
    exact ⟨_, addedAgain, gains, rfl, rfl⟩

def furnished : Stores where
  pages := { table := ⟨[{ id := 1, name := "about", path := "/about", body := "A" }], 1⟩ }
  widgets := { table := ⟨[{ id := 1, name := "greet", content := "Hello" }], 1⟩ }

def furniture : Seed where
  pages := [
    { name := "home", path := "~/Home.liquid", body := "H" },
    { name := "about", path := "/other", body := "O" },
    { name := "again", path := "/HOME", body := "H" }]
  layouts := [{ name := "main", content := "M" }]
  widgets := [{ name := "greet", content := "Hi" }, { name := "menu", content := "M" }]

theorem seeds_greedily_furniture : furnished.RoomFor furniture ∧
    ∃ later, furniture.addTo ".liquid" 7 furnished = .ok (3, later) ∧ later.rowCount = 5 ∧
      ∃ again, furniture.addTo ".liquid" 8 later = .ok (1, again) ∧ again.pages = later.pages := by
  have pageSound : furnished.pages.table.Sound := by
    refine ⟨List.pairwise_singleton _ _, fun row member => ⟨1, by decide, by decide, ?_⟩⟩
    rw [List.mem_singleton.mp member]
    rfl
  have widgetSound : furnished.widgets.table.Sound := by
    refine ⟨List.pairwise_singleton _ _, fun row member => ⟨1, by decide, by decide, ?_⟩⟩
    rw [List.mem_singleton.mp member]
    rfl
  have room : furnished.RoomFor furniture :=
    ⟨Table.sound_new.room (by decide), pageSound.room (by decide), widgetSound.room (by decide)⟩
  have count : (furniture.layoutRows 7).length +
      (letIn Page.TakenBy furnished.pages.table.rows (furniture.pageRows ".liquid" 7)).length +
      (letIn Widget.TakenBy furnished.widgets.table.rows (furniture.widgetRows 7)).length = 3 := by
    decide +kernel
  obtain ⟨later, added, total, _, _, _, _, again⟩ := seeds_greedily furniture ".liquid" 7 furnished room
  obtain ⟨after, addedAgain, _, same, _⟩ := again 8
  rw [count] at added total
  exact ⟨room, later, added, total, after, addedAgain, same⟩

end Seed

end LiveViews.Store
