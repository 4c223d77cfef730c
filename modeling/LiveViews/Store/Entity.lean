import LiveViews.Json.Record
import LiveViews.Text.Numeral

/-!
What is stored: pages, layouts and widgets, and their records in JSON.
-/

namespace LiveViews.Store

open LiveViews.Text

inductive Status where
  | active
  | disabled
  | deleted
  deriving DecidableEq, Inhabited

structure Page where
  id : Int := 0
  name : String
  path : String
  body : String
  status : Status := .active
  createdAt : Int := 0
  updatedAt : Option Int := none
  layoutId : Option Int := none
  deriving DecidableEq

structure Layout where
  id : Int := 0
  name : String
  remark : String := ""
  content : String
  schema : String := ""
  status : Status := .active
  createdAt : Int := 0
  updatedAt : Option Int := none
  deriving DecidableEq

structure Widget where
  id : Int := 0
  name : String
  content : String
  status : Status := .active
  createdAt : Int := 0
  updatedAt : Option Int := none
  deriving DecidableEq

class Row (α : Type) where
  table : String
  id : α → Int
  withId : α → Int → α
  uniqueKeys : α → List (String × String)
  json : α → Json
  read? : Json.RecordForm → Json → Option α

def Row.ofJson? {α : Type} [Row α] (value : Json) : Option α :=
  Row.read? .json value

namespace Status

def text : Status → String
  | .active => "active"
  | .disabled => "disabled"
  | .deleted => "deleted"

def ofText? : String → Option Status
  | "active" => some .active
  | "disabled" => some .disabled
  | "deleted" => some .deleted
  | _ => none

/-- Whether a value stands for nothing at all. TOML has no null and takes an empty list or table. -/
def isNothing : Json.RecordForm → Json → Bool
  | .json, .null => true
  | .toml, .array [] => true
  | .toml, .object [] => true
  | _, _ => false

/-- A status is its name, or an object with nothing under that name. -/
def read? (form : Json.RecordForm) : Json → Option Status
  | .string text => ofText? text
  | .object [(text, content)] => if isNothing form content then ofText? text else none
  | _ => none

end Status

def leastI32 : Int := -2147483648
def greatestI32 : Int := 2147483647

def readId? : Json → Option Int :=
  Json.whole? leastI32 greatestI32

def readTime? : Json → Option Int :=
  Json.whole? leastI64 greatestI64

def timeJson : Option Int → Json :=
  Json.ofOption Json.int

namespace Page

def fieldNames : List String :=
  ["id", "name", "path", "body", "status", "created_at", "updated_at", "layout_id"]

def json (page : Page) : Json :=
  .object [
    ("id", .int page.id),
    ("name", .string page.name),
    ("path", .string page.path),
    ("body", .string page.body),
    ("status", .string page.status.text),
    ("created_at", .int page.createdAt),
    ("updated_at", timeJson page.updatedAt),
    ("layout_id", timeJson page.layoutId)]

def read? (form : Json.RecordForm) (value : Json) : Option Page := do
  match ← Json.fields? form fieldNames value with
  | [id, name, path, body, status, createdAt, updatedAt, layoutId] =>
    return {
      id := ← Json.orDefault 0 readId? id
      name := ← Json.need Json.string? name
      path := ← Json.need Json.string? path
      body := ← Json.need Json.string? body
      status := ← Json.orDefault .active (Status.read? form) status
      createdAt := ← Json.orDefault 0 readTime? createdAt
      updatedAt := ← Json.orDefault none (Json.nullable readTime?) updatedAt
      layoutId := ← Json.orDefault none (Json.nullable readId?) layoutId }
  | _ => none

instance : Row Page where
  table := "pages"
  id := Page.id
  withId page id := { page with id := id }
  uniqueKeys page := [("name", page.name), ("path", page.path)]
  json := json
  read? := read?

end Page

namespace Layout

def fieldNames : List String :=
  ["id", "name", "remark", "content", "schema", "status", "created_at", "updated_at"]

def json (layout : Layout) : Json :=
  .object [
    ("id", .int layout.id),
    ("name", .string layout.name),
    ("remark", .string layout.remark),
    ("content", .string layout.content),
    ("schema", .string layout.schema),
    ("status", .string layout.status.text),
    ("created_at", .int layout.createdAt),
    ("updated_at", timeJson layout.updatedAt)]

def read? (form : Json.RecordForm) (value : Json) : Option Layout := do
  match ← Json.fields? form fieldNames value with
  | [id, name, remark, content, schema, status, createdAt, updatedAt] =>
    return {
      id := ← Json.orDefault 0 readId? id
      name := ← Json.need Json.string? name
      remark := ← Json.orDefault "" Json.string? remark
      content := ← Json.need Json.string? content
      schema := ← Json.orDefault "" Json.string? schema
      status := ← Json.orDefault .active (Status.read? form) status
      createdAt := ← Json.orDefault 0 readTime? createdAt
      updatedAt := ← Json.orDefault none (Json.nullable readTime?) updatedAt }
  | _ => none

instance : Row Layout where
  table := "layouts"
  id := Layout.id
  withId layout id := { layout with id := id }
  uniqueKeys _ := []
  json := json
  read? := read?

end Layout

namespace Widget

def fieldNames : List String :=
  ["id", "name", "content", "status", "created_at", "updated_at"]

def json (widget : Widget) : Json :=
  .object [
    ("id", .int widget.id),
    ("name", .string widget.name),
    ("content", .string widget.content),
    ("status", .string widget.status.text),
    ("created_at", .int widget.createdAt),
    ("updated_at", timeJson widget.updatedAt)]

def read? (form : Json.RecordForm) (value : Json) : Option Widget := do
  match ← Json.fields? form fieldNames value with
  | [id, name, content, status, createdAt, updatedAt] =>
    return {
      id := ← Json.orDefault 0 readId? id
      name := ← Json.need Json.string? name
      content := ← Json.need Json.string? content
      status := ← Json.orDefault .active (Status.read? form) status
      createdAt := ← Json.orDefault 0 readTime? createdAt
      updatedAt := ← Json.orDefault none (Json.nullable readTime?) updatedAt }
  | _ => none

instance : Row Widget where
  table := "widgets"
  id := Widget.id
  withId widget id := { widget with id := id }
  uniqueKeys widget := [("name", widget.name)]
  json := json
  read? := read?

end Widget

end LiveViews.Store
