import LiveViews.Json.Record
import LiveViews.Text.Numeral
import LiveViews.Text.Search
import LiveViews.Toml.Reader
import LiveViews.View.Location
import LiveViews.View.Settings

/-!
The configuration of the program, what may be wrong with it, and how it is read.
-/

namespace LiveViews

open LiveViews.Text

namespace Config

structure StoreSettings where
  seed : Option String := none
  database : Option String := none

structure ServeSettings where
  interface : String := "127.0.0.1"
  port : Nat := 5277
  watch : Bool := true
  workers : Nat := 4

end Config

structure Config where
  root : String := ""
  configPath : String := ""
  store : Config.StoreSettings := {}
  views : View.Settings := {}
  serve : Config.ServeSettings := {}

namespace Config

inductive ConfigError where
  | invalid (complaint : String)
  | malformed
  | io (file : String)
  deriving DecidableEq

def ConfigError.message : ConfigError → String
  | .invalid complaint => "Config validation error: " ++ complaint
  | .malformed => "tessera.toml parsing error"
  | .io file => "IO error when reading `" ++ file ++ "`"

def readCount? : Json → Option Nat
  | value => (Json.whole? 0 greatestI64 value).map Int.toNat

def readPort? : Json → Option Nat
  | value => (Json.whole? 0 65535 value).map Int.toNat

def readTexts? (value : Json) : Option (List String) := do
  (← value.array?).mapM Json.string?

def readText? (value : Json) : Option (Option String) :=
  value.string?.map some

def StoreSettings.ofJson? (value : Json) : Option StoreSettings := do
  match ← Json.fields? .toml ["seed", "database"] value with
  | [seed, database] =>
    return {
      seed := ← Json.orDefault none readText? seed
      database := ← Json.orDefault none readText? database }
  | _ => none

def viewFields : List String :=
  ["root", "extension", "locations", "partials", "max_widget_depth", "max_range", "home_page"]

def readViews? (value : Json) : Option View.Settings := do
  let usual : View.Settings := {}
  match ← Json.fields? .toml viewFields value with
  | [root, extension, locations, fragments, maxWidgetDepth, maxRange, homePage] =>
    return {
      root := ← Json.orDefault usual.root Json.string? root
      extension := ← Json.orDefault usual.extension Json.string? extension
      locations := ← Json.orDefault usual.locations readTexts? locations
      fragments := ← Json.orDefault usual.fragments readTexts? fragments
      maxWidgetDepth := ← Json.orDefault usual.maxWidgetDepth readCount? maxWidgetDepth
      maxRange := ← Json.orDefault usual.maxRange readCount? maxRange
      homePage := ← Json.orDefault usual.homePage Json.string? homePage }
  | _ => none

def ServeSettings.ofJson? (value : Json) : Option ServeSettings := do
  let usual : ServeSettings := {}
  match ← Json.fields? .toml ["interface", "port", "watch", "workers"] value with
  | [interface, port, watch, workers] =>
    return {
      interface := ← Json.orDefault usual.interface Json.string? interface
      port := ← Json.orDefault usual.port readPort? port
      watch := ← Json.orDefault usual.watch Json.bool? watch
      workers := ← Json.orDefault usual.workers readCount? workers }
  | _ => none

def ofJson? (value : Json) : Option Config := do
  match ← Json.fields? .toml ["store", "views", "serve"] value with
  | [store, views, serve] =>
    return {
      store := ← Json.orDefault {} StoreSettings.ofJson? store
      views := ← Json.orDefault {} readViews? views
      serve := ← Json.orDefault {} ServeSettings.ofJson? serve }
  | _ => none

def ofText (text : String) : Except ConfigError Config :=
  match (Toml.ofText? text).bind ofJson? with
  | some config => .ok config
  | none => .error .malformed

def mentions (placeholder : List Char) (format : String) : Bool :=
  occursIn placeholder format.toList

/-- Whether a path format can be used for fragments: it asks for the name and for nothing else. -/
def fitsFragments (format : String) : Bool :=
  mentions View.namePlaceholder format && !mentions View.controllerPlaceholder format &&
    !mentions View.areaPlaceholder format

def viewComplaint? (views : View.Settings) : Option String :=
  if views.locations.isEmpty then some "[views.locations] must have at least one element"
  else
    match views.locations.find? fun format => !mentions View.namePlaceholder format with
    | some format => some ("[views.locations] entry `" ++ format ++ "` has no \x7bname\x7d placeholder")
    | none =>
      match views.fragments.find? fun format => !fitsFragments format with
      | some format =>
        some ("[views.partials] entry `" ++ format ++ "` must use \x7bname\x7d and nothing else")
      | none =>
        if views.extension.toList.head? ≠ some '.' then
          some "[views.extension] must start with `.`"
        else if views.maxWidgetDepth = 0 then some "[views.max_widget_depth] must be at least 1"
        else if views.maxRange = 0 then some "[views.max_range] must be at least 1"
        else none

/-- The first complaint about a configuration, whose seed must be a file. -/
def complaint? (isFile : String → Bool) (config : Config) : Option String :=
  match viewComplaint? config.views with
  | some complaint => some complaint
  | none =>
    if config.serve.workers = 0 then some "[serve.workers] must be at least 1"
    else
      match config.store.seed.filter fun seed => !isFile seed with
      | some seed => some ("[store.seed] `" ++ seed ++ "` not found")
      | none => none

def validate (isFile : String → Bool) (config : Config) : Except ConfigError Unit :=
  match complaint? isFile config with
  | some complaint => .error (.invalid complaint)
  | none => .ok ()

end Config

end LiveViews
