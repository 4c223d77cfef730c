import LiveViews.Proofs.Json.Reading
import LiveViews.Proofs.Store.Tables

/-!
Records of rows. The text that is kept of a row is read back as that row, with every field, as long as
its ids and times fit their words (`Recorded`).
-/

namespace LiveViews.Store

open LiveViews.Text

def FitsId (id : Int) : Prop :=
  leastI32 ≤ id ∧ id ≤ greatestI32

def FitsTime (time : Int) : Prop :=
  leastI64 ≤ time ∧ time ≤ greatestI64

instance (id : Int) : Decidable (FitsId id) :=
  inferInstanceAs (Decidable (_ ∧ _))

instance (time : Int) : Decidable (FitsTime time) :=
  inferInstanceAs (Decidable (_ ∧ _))

/-- Rows whose records are read back. -/
class Recorded (α : Type) [Row α] where
  InRange : α → Prop
  decidable : DecidablePred InRange
  inRange_withId : ∀ row id, FitsId id → InRange row → InRange (Row.withId row id)
  plain : ∀ row : α, InRange row → Json.Plain 0 (Row.json row)
  ofJson?_json : ∀ row : α, InRange row → Row.ofJson? (Row.json row) = some row

instance {α : Type} [Row α] [Recorded α] : DecidablePred (Recorded.InRange (α := α)) :=
  Recorded.decidable

theorem rowOfText?_rowText {α : Type} [Row α] [Recorded α] {row : α}
    (inRange : Recorded.InRange row) : rowOfText? (rowText row) = some row := by
  unfold rowOfText? rowText
  rw [Json.ofText?_text (Recorded.plain row inRange)]
  exact Recorded.ofJson?_json row inRange

section Fields

theorem readId?_int {id : Int} (fits : FitsId id) : readId? (.int id) = some id :=
  if_pos fits

theorem readTime?_int {time : Int} (fits : FitsTime time) : readTime? (.int time) = some time :=
  if_pos fits

theorem nullable_timeJson {read : Json → Option Int} {value : Option Int}
    (reads : ∀ number ∈ value, read (.int number) = some number) :
    Json.nullable read (timeJson value) = some value := by
  cases value with
  | none => rfl
  | some number =>
      show (read (.int number)).map some = _
      rw [reads number rfl]
      rfl

theorem Status.read?_text (status : Status) :
    Status.read? .json (.string status.text) = some status := by
  cases status <;> rfl

theorem plain_id {depth : Nat} {id : Int} (fits : FitsId id) : Json.Plain depth (.int id) := by
  unfold FitsId leastI32 greatestI32 at fits
  unfold Json.Plain leastI64 wordBound
  omega

theorem plain_time {depth : Nat} {time : Int} (fits : FitsTime time) : Json.Plain depth (.int time) := by
  unfold FitsTime leastI64 greatestI64 at fits
  unfold Json.Plain leastI64 wordBound
  omega

theorem plain_timeJson {depth : Nat} {value : Option Int}
    (plain : ∀ number ∈ value, Json.Plain depth (.int number)) : Json.Plain depth (timeJson value) := by
  cases value with
  | none => exact trivial
  | some number => exact plain number rfl

end Fields

namespace Page

def InRange (page : Page) : Prop :=
  FitsId page.id ∧ FitsTime page.createdAt ∧ (∀ time ∈ page.updatedAt, FitsTime time) ∧
    ∀ id ∈ page.layoutId, FitsId id

instance : DecidablePred Page.InRange := fun _ =>
  inferInstanceAs (Decidable (_ ∧ _ ∧ _ ∧ _))

theorem fields?_json (page : Page) : Json.fields? .json fieldNames page.json =
    some [some (.int page.id), some (.string page.name), some (.string page.path),
      some (.string page.body), some (.string page.status.text), some (.int page.createdAt),
      some (timeJson page.updatedAt), some (timeJson page.layoutId)] := by
  rfl

theorem read?_json {page : Page} (inRange : page.InRange) : read? .json page.json = some page := by
  obtain ⟨id, created, updated, layout⟩ := inRange
  have updatedAt := nullable_timeJson fun time member => readTime?_int (updated time member)
  have layoutId := nullable_timeJson fun id member => readId?_int (layout id member)
  unfold read?
  rw [fields?_json]
  simp [Json.orDefault, Json.need, Json.string?, readId?_int id, readTime?_int created,
    Status.read?_text, updatedAt, layoutId]

instance : Recorded Page where
  InRange := InRange
  decidable := inferInstance
  inRange_withId _ _ fits inRange := ⟨fits, inRange.2⟩
  plain page inRange := by
    obtain ⟨id, created, updated, layout⟩ := inRange
    refine ⟨by decide, plain_id id, trivial, trivial, trivial, trivial, plain_time created, ?_, ?_, trivial⟩
    · exact plain_timeJson fun time member => plain_time (updated time member)
    · exact plain_timeJson fun id member => plain_id (layout id member)
  ofJson?_json _ inRange := read?_json inRange

example (name path body : String) : read? .json (.object [("body", .string body),
    ("name", .string name), ("path", .string path)]) = some { name, path, body } := by
  rfl

end Page

namespace Layout

def InRange (layout : Layout) : Prop :=
  FitsId layout.id ∧ FitsTime layout.createdAt ∧ ∀ time ∈ layout.updatedAt, FitsTime time

instance : DecidablePred Layout.InRange := fun _ =>
  inferInstanceAs (Decidable (_ ∧ _ ∧ _))

theorem fields?_json (layout : Layout) : Json.fields? .json fieldNames layout.json =
    some [some (.int layout.id), some (.string layout.name), some (.string layout.remark),
      some (.string layout.content), some (.string layout.schema), some (.string layout.status.text),
      some (.int layout.createdAt), some (timeJson layout.updatedAt)] := by
  rfl

theorem read?_json {layout : Layout} (inRange : layout.InRange) :
    read? .json layout.json = some layout := by
  obtain ⟨id, created, updated⟩ := inRange
  have updatedAt := nullable_timeJson fun time member => readTime?_int (updated time member)
  unfold read?
  rw [fields?_json]
  simp [Json.orDefault, Json.need, Json.string?, readId?_int id, readTime?_int created,
    Status.read?_text, updatedAt]

instance : Recorded Layout where
  InRange := InRange
  decidable := inferInstance
  inRange_withId _ _ fits inRange := ⟨fits, inRange.2⟩
  plain layout inRange := by
    obtain ⟨id, created, updated⟩ := inRange
    refine ⟨by decide, plain_id id, trivial, trivial, trivial, trivial, trivial, plain_time created, ?_,
      trivial⟩
    exact plain_timeJson fun time member => plain_time (updated time member)
  ofJson?_json _ inRange := read?_json inRange

end Layout

namespace Widget

def InRange (widget : Widget) : Prop :=
  FitsId widget.id ∧ FitsTime widget.createdAt ∧ ∀ time ∈ widget.updatedAt, FitsTime time

instance : DecidablePred Widget.InRange := fun _ =>
  inferInstanceAs (Decidable (_ ∧ _ ∧ _))

theorem fields?_json (widget : Widget) : Json.fields? .json fieldNames widget.json =
    some [some (.int widget.id), some (.string widget.name), some (.string widget.content),
      some (.string widget.status.text), some (.int widget.createdAt),
      some (timeJson widget.updatedAt)] := by
  rfl

theorem read?_json {widget : Widget} (inRange : widget.InRange) :
    read? .json widget.json = some widget := by
  obtain ⟨id, created, updated⟩ := inRange
  have updatedAt := nullable_timeJson fun time member => readTime?_int (updated time member)
  unfold read?
  rw [fields?_json]
  simp [Json.orDefault, Json.need, Json.string?, readId?_int id, readTime?_int created,
    Status.read?_text, updatedAt]

instance : Recorded Widget where
  InRange := InRange
  decidable := inferInstance
  inRange_withId _ _ fits inRange := ⟨fits, inRange.2⟩
  plain widget inRange := by
    obtain ⟨id, created, updated⟩ := inRange
    refine ⟨by decide, plain_id id, trivial, trivial, trivial, plain_time created, ?_, trivial⟩
    exact plain_timeJson fun time member => plain_time (updated time member)
  ofJson?_json _ inRange := read?_json inRange

end Widget

end LiveViews.Store
