import LiveViews.Proofs.View.Formats
import Mathlib.Data.List.Basic

/-!
Formats filled in by a request. The fields are put in one after the other, each into all that was put
together before. That comes to filling them in at once (`substitute?`) where no name and no controller
brings a placeholder with it that is still to be filled in (`verbatim_iff_unmixed`).
-/

namespace LiveViews.View

open LiveViews.Text

def requested (name : List Char) (routing : Routing) : Field → Option (List Char)
  | .name => some name
  | .controller => routing.controller.map String.toList
  | .area => routing.area.map String.toList

def substitute? (format name : List Char) (routing : Routing) : Option (List Char) :=
  assemble? (requested name routing) (pieces format)

/-- Nothing that is put in brings a placeholder with it that is still to be filled in. -/
structure Unmixed (format name : List Char) (routing : Routing) : Prop where
  controller : occurrences controllerPlaceholder (replaceAll namePlaceholder name format) =
    occurrences controllerPlaceholder format
  area : ∀ placed, fill controllerPlaceholder (routing.controller.map String.toList)
      (replaceAll namePlaceholder name format) = some placed →
    occurrences areaPlaceholder placed = occurrences areaPlaceholder format

def withName (name : List Char) : Field → List Char :=
  Function.update Field.placeholder .name name

def withController (name controller : List Char) : Field → List Char :=
  Function.update (withName name) .controller controller

theorem withName_controller (name : List Char) :
    withName name .controller = Field.controller.placeholder :=
  rfl

theorem withController_area (name controller : List Char) :
    withController name controller .area = Field.area.placeholder :=
  rfl

theorem replaceAll_name (format name : List Char) :
    replaceAll namePlaceholder name format = filled (withName name) (pieces format) := by
  have own : occurrences Field.name.placeholder (filled Field.placeholder (pieces format)) =
      (pieces format).count (.field .name) := by
    rw [filled_pieces, occurrences_format]
  have replaced := replaceAll_filled rfl own name
  rwa [filled_pieces] at replaced

theorem expand_eq (format name : List Char) (routing : Routing) :
    expand format name routing =
      (fill Field.controller.placeholder (requested name routing .controller)
        (filled (withName name) (pieces format))).bind
          (fill Field.area.placeholder (requested name routing .area)) := by
  unfold expand
  rw [replaceAll_name]
  rfl

section

variable {format name : List Char} {routing : Routing}

theorem substitute?_eq_none {field : Field} (wanted : .field field ∈ pieces format)
    (unknown : requested name routing field = none) : substitute? format name routing = none :=
  assemble?_eq_none.mpr ⟨field, wanted, unknown⟩

theorem requested_getD {field : Field}
    (known : .field field ∈ pieces format → (requested name routing field).isSome)
    (wanted : .field field ∈ pieces format) :
    requested name routing field = some ((requested name routing field).getD []) := by
  obtain ⟨text, given⟩ := Option.isSome_iff_exists.mp (known wanted)
  rw [given, Option.getD_some]

theorem fill_controller
    (own : occurrences controllerPlaceholder (replaceAll namePlaceholder name format) =
      occurrences controllerPlaceholder format)
    (known : .field .controller ∈ pieces format → (requested name routing .controller).isSome) :
    fill Field.controller.placeholder (requested name routing .controller)
        (filled (withName name) (pieces format)) =
      some (filled (withController name ((requested name routing .controller).getD []))
        (pieces format)) := by
  apply fill_known (withName_controller name) _ known
  rw [← occurrences_format, ← replaceAll_name]
  exact own

theorem controller_known {placed : List Char}
    (fills : fill Field.controller.placeholder (requested name routing .controller)
      (filled (withName name) (pieces format)) = some placed)
    (wanted : .field .controller ∈ pieces format) :
    (requested name routing .controller).isSome := by
  by_contra unknown
  rw [Option.not_isSome_iff_eq_none] at unknown
  rw [unknown, fill_unknown (withName_controller name) wanted] at fills
  cases fills

theorem expand_of_unmixed (unmixed : Unmixed format name routing) :
    expand format name routing = substitute? format name routing := by
  rw [expand_eq]
  by_cases placeable : .field .controller ∈ pieces format →
      (requested name routing .controller).isSome
  · have placed := fill_controller unmixed.controller placeable
    have areas := unmixed.area _ (by rw [replaceAll_name]; exact placed)
    rw [placed, Option.bind_some]
    by_cases complete : .field .area ∈ pieces format → (requested name routing .area).isSome
    · rw [fill_known (withController_area name _) (areas.trans (occurrences_format .area format))
        complete]
      apply (assemble?_of_known _ _).symm
      intro field wanted
      cases field with
      | name => rfl
      | controller => exact requested_getD placeable wanted
      | area => exact requested_getD complete wanted
    · obtain ⟨wanted, unknown⟩ := Classical.not_imp.mp complete
      rw [Option.not_isSome_iff_eq_none] at unknown
      rw [unknown, fill_unknown (withController_area name _) wanted,
        substitute?_eq_none wanted unknown]
  · obtain ⟨wanted, unknown⟩ := Classical.not_imp.mp placeable
    rw [Option.not_isSome_iff_eq_none] at unknown
    rw [unknown, fill_unknown (withName_controller name) wanted, Option.bind_none,
      substitute?_eq_none wanted unknown]

theorem controllers_of_verbatim
    (verbatim : ∀ routing, expand format name routing = substitute? format name routing) :
    occurrences controllerPlaceholder (replaceAll namePlaceholder name format) =
      occurrences controllerPlaceholder format := by
  have emptied := verbatim { controller := some "", area := some (String.ofList areaPlaceholder) }
  rw [substitute?, assemble?_of_known (withController name []), expand_eq] at emptied
  · simp only [requested, Option.map_some, String.toList_ofList] at emptied
    rw [String.toList_empty, fill_some, Option.bind_some, ← Field.placeholder, fill_some,
      replaceAll_self (Field.unlapped .area)] at emptied
    have own := occurrences_of_replaced (withName_controller name) (Option.some.inj emptied)
    rwa [← occurrences_format, ← replaceAll_name] at own
  · intro field _
    cases field with
    | name => rfl
    | controller => rfl
    | area => simp [requested, withController_area, Field.placeholder]

theorem unmixed_of_verbatim
    (verbatim : ∀ routing, expand format name routing = substitute? format name routing)
    (routing : Routing) : Unmixed format name routing := by
  have controllers := controllers_of_verbatim verbatim
  refine ⟨controllers, ?_⟩
  intro placed fills
  rw [replaceAll_name] at fills
  have known := controller_known fills
  have put := fill_controller controllers known
  obtain rfl := Option.some.inj (put.symm.trans fills)
  have emptied := verbatim { routing with area := some "" }
  rw [substitute?, assemble?_of_known (Function.update
    (withController name ((requested name routing .controller).getD [])) .area []),
    expand_eq] at emptied
  · have first : requested name { routing with area := some "" } .controller =
        requested name routing .controller := rfl
    have last : requested name { routing with area := some "" } .area = some [] := rfl
    rw [first, last, put, Option.bind_some, fill_some] at emptied
    exact (occurrences_of_replaced (withController_area name _) (Option.some.inj emptied)).trans
      (occurrences_format .area format).symm
  · intro field wanted
    cases field with
    | name => rfl
    | controller => exact requested_getD known wanted
    | area => rfl

end

/-- Braces that stand for themselves are what goes wrong: a format has none beside its placeholders,
and a name and a controller without any bring no placeholder with them. -/
theorem unmixed_of_braceless {format name : List Char} {routing : Routing}
    (letters : ∀ c, .letter c ∈ pieces format → c ≠ '{') (plain : '{' ∉ name)
    (controllers : ∀ controller, routing.controller = some controller → '{' ∉ controller.toList) :
    Unmixed format name routing := by
  have named := occurrences_filled (withName_controller name) letters (by
    intro field different
    cases field with
    | name => exact Or.inr plain
    | controller => exact absurd rfl different
    | area => exact Or.inl rfl)
  rw [← occurrences_format, ← replaceAll_name] at named
  refine ⟨named, ?_⟩
  intro placed fills
  rw [replaceAll_name] at fills
  have known := controller_known fills
  have put := fill_controller named known
  obtain rfl := Option.some.inj (put.symm.trans fills)
  apply (occurrences_filled (withController_area name _) letters _).trans
    (occurrences_format .area format).symm
  intro field different
  cases field with
  | name => exact Or.inr plain
  | controller =>
      right
      show '{' ∉ (routing.controller.map String.toList).getD []
      cases given : routing.controller with
      | none => simp
      | some controller => exact controllers controller given
  | area => exact absurd rfl different

theorem occursIn_placeholder (field : Field) (format : List Char) :
    occursIn field.placeholder format = true ↔ .field field ∈ pieces format := by
  rw [occursIn_iff field.unlapped, occurrences_format, ← Nat.pos_iff_ne_zero, List.count_pos_iff]

theorem substitute?_eq_none_iff (format name : List Char) (routing : Routing) :
    substitute? format name routing = none ↔
      (occursIn controllerPlaceholder format = true ∧ routing.controller = none) ∨
        (occursIn areaPlaceholder format = true ∧ routing.area = none) := by
  have controller := occursIn_placeholder .controller format
  have area := occursIn_placeholder .area format
  unfold substitute?
  rw [assemble?_eq_none]
  constructor
  · rintro ⟨field, wanted, unknown⟩
    cases field with
    | name => cases unknown
    | controller => exact Or.inl ⟨controller.mpr wanted, Option.map_eq_none_iff.mp unknown⟩
    | area => exact Or.inr ⟨area.mpr wanted, Option.map_eq_none_iff.mp unknown⟩
  · rintro (⟨wanted, unknown⟩ | ⟨wanted, unknown⟩)
    · exact ⟨.controller, controller.mp wanted, Option.map_eq_none_iff.mpr unknown⟩
    · exact ⟨.area, area.mp wanted, Option.map_eq_none_iff.mpr unknown⟩

theorem candidates_logical {extension : List Char} {name : List Char}
    (relative : isRooted (trim name) = false) (bare : hasExtension extension (trim name) = false)
    (locations : List (List Char)) (routing : Routing) :
    candidates extension locations name routing =
      locations.filterMap fun format => expand format (trim name) routing := by
  simp only [candidates, relative, bare, Bool.false_eq_true, if_false]

/-- Requests are filled in as the format says where nothing that is put in reads like a placeholder;
and a format for which that holds of all requests is one that nothing mixes up. What is known of a
request decides alone which formats give no path, and the paths of a name are those of the formats in
their order. -/
theorem verbatim_iff_unmixed (extension : List Char) (locations : List (List Char))
    (name : List Char) :
    (∀ format routing, Unmixed format name routing →
      expand format name routing = substitute? format name routing) ∧
    (∀ format, (∀ routing, expand format name routing = substitute? format name routing) →
      ∀ routing, Unmixed format name routing) ∧
    (∀ format routing, substitute? format name routing = none ↔
      (occursIn controllerPlaceholder format = true ∧ routing.controller = none) ∨
        (occursIn areaPlaceholder format = true ∧ routing.area = none)) ∧
    ∀ routing, isRooted (trim name) = false → hasExtension extension (trim name) = false →
      (∀ format ∈ locations, Unmixed format (trim name) routing) →
        candidates extension locations name routing =
          locations.filterMap fun format => substitute? format (trim name) routing := by
  refine ⟨fun _ _ unmixed => expand_of_unmixed unmixed,
    fun _ verbatim => unmixed_of_verbatim verbatim,
    fun format routing => substitute?_eq_none_iff format name routing, ?_⟩
  intro routing relative bare unmixed
  rw [candidates_logical relative bare]
  apply List.filterMap_congr
  intro format member
  exact expand_of_unmixed (unmixed format member)

def controllerFormat : List Char := "/\x7bcontroller\x7d/\x7bname\x7d.liquid".toList

theorem verbatim_iff_unmixed_home :
    Unmixed controllerFormat "Index".toList { controller := some "Home" } ∧
    expand controllerFormat "Index".toList { controller := some "Home" } =
      some "/Home/Index.liquid".toList ∧
    expand controllerFormat "Index".toList {} = none ∧
    candidates ".liquid".toList [controllerFormat] "Index".toList { controller := some "Home" } =
      ["/Home/Index.liquid".toList] := by
  obtain ⟨fills, _, skips, lists⟩ :=
    verbatim_iff_unmixed ".liquid".toList [controllerFormat] "Index".toList
  have plain : ∀ piece ∈ pieces controllerFormat, piece ≠ .letter '{' := by
    decide +kernel
  have letters : ∀ c, .letter c ∈ pieces controllerFormat → c ≠ '{' := by
    rintro c member rfl
    exact plain _ member rfl
  have unmixed : ∀ routing : Routing, (∀ given, routing.controller = some given → given = "Home") →
      Unmixed controllerFormat "Index".toList routing := by
    intro routing home
    apply unmixed_of_braceless letters (by decide)
    intro given same
    rw [home given same]
    decide
  have home := unmixed { controller := some "Home" } (by simp)
  refine ⟨home, ?_, ?_, ?_⟩
  · rw [fills _ _ home]
    decide +kernel
  · rw [fills _ _ (unmixed {} (by simp)), skips]
    exact Or.inl ⟨by decide +kernel, rfl⟩
  · have bare : trim "Index".toList = "Index".toList := by decide +kernel
    rw [lists _ (by decide +kernel) (by decide +kernel) (by rw [bare]; simpa using home)]
    decide +kernel

/-- A name that reads like a placeholder: without an area the format is passed over, and with one the
name is replaced by it. -/
theorem name_taken_for_placeholder :
    expand "/\x7bname\x7d".toList areaPlaceholder {} = none ∧
    expand "/\x7bname\x7d".toList areaPlaceholder { area := some "Shop" } = some "/Shop".toList ∧
    ∀ routing, substitute? "/\x7bname\x7d".toList areaPlaceholder routing =
      some ('/' :: areaPlaceholder) := by
  refine ⟨by decide +kernel, by decide +kernel, fun routing => ?_⟩
  rfl

end LiveViews.View
