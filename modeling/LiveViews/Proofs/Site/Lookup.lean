import LiveViews.Proofs.Render.Nesting
import LiveViews.Proofs.Site.Ranges

/-!
Looking a view up and rendering it. Whether a path is there is asked in one place and read in another,
and a render may be served from what is kept; still they agree on every path, and a view that is found
is never missing when it is rendered (`lookup_agrees_with_rendering`).
-/

namespace LiveViews

open LiveViews.Store LiveViews.Signal
open LiveViews.Liquid (Template Value Members)

inductive SourceError : RenderError → Prop
  | io (file : String) : SourceError (.io file)
  | invalidUtf8 (path : String) : SourceError (.invalidUtf8 path)
  | parse (error : ParseError) : SourceError (.parse error)
  | broken : SourceError .broken

theorem Source.template_error {source : Source} {path : String} {maxRange : Nat} {error : RenderError}
    (fails : source.template path maxRange = .error error) : SourceError error := by
  unfold Source.template at fails
  split at fails
  · cases fails
    exact .invalidUtf8 path
  · split at fails
    · cases fails
    · cases fails
      exact .parse _
    · cases fails
      exact .broken

namespace Site

variable {site : Site}

/-- The fallback can be read at the path, whether it has a file there or not. -/
def Readable (site : Site) (path : String) : Prop :=
  ∀ error, fileSource site path ≠ .error error

/-- An active page stands at the normal path, or the fallback has a file. -/
def Present (site : Site) (path : String) : Prop :=
  (∃ page ∈ site.stores.pages.table.rows, page.path = site.normal path ∧ page.status = .active) ∨
    ∃ source, fileSource site path = .ok (some source)

theorem page?_isSome {normal : String} : (site.page? normal).isSome ↔
    ∃ page ∈ site.stores.pages.table.rows, page.path = normal ∧ page.status = .active := by
  simp [page?, Table.find?]

theorem present_of_source {path : String} {source : Source}
    (read : site.source path = .ok (some source)) : site.Present path := by
  unfold Site.source at read
  unfold Present
  rw [← page?_isSome]
  cases known : site.page? (site.normal path) with
  | some page => exact Or.inl rfl
  | none =>
      rw [known] at read
      exact Or.inr ⟨source, read⟩

theorem absent_of_source {path : String} (read : site.source path = .ok none) :
    ¬site.Present path := by
  unfold Site.source at read
  unfold Present
  rw [← page?_isSome]
  cases known : site.page? (site.normal path) with
  | some page =>
      rw [known] at read
      cases read
  | none =>
      rw [known] at read
      simp [read]

theorem source_of_readable {path : String} (readable : site.Readable path) (error : RenderError) :
    site.source path ≠ .error error := by
  unfold Site.source
  cases site.page? (site.normal path) with
  | some page => exact nofun
  | none => exact readable error

theorem fileSource_error {path : String} {error : RenderError}
    (fails : fileSource site path = .error error) : SourceError error := by
  unfold fileSource at fails
  split at fails
  · cases fails
  · split at fails
    · cases fails
    · split at fails
      · cases fails
      · cases fails
      · cases fails
        exact .io _

theorem source_error {path : String} {error : RenderError}
    (fails : site.source path = .error error) : SourceError error := by
  unfold source at fails
  split at fails
  · cases fails
  · exact fileSource_error fails

theorem compiledView_error (calm : site.Calm) {path : String} {error : RenderError}
    (fails : (LiveViews.compiledView path site).1 = .error error) :
    (error = .notFound path ∧ site.source path = .ok none) ∨ SourceError error := by
  rw [LiveViews.compiledView, SiteM.bind_apply, SiteM.get_apply] at fails
  cases known : site.compiled? path with
  | some compiled =>
      rw [known] at fails
      cases fails
  | none =>
      simp only [known, SiteM.bind_apply, resolve_calm calm] at fails
      cases read : site.source path with
      | error other =>
          rw [read] at fails
          cases fails
          exact Or.inr (source_error read)
      | ok source? =>
          cases source? with
          | none =>
              rw [read] at fails
              cases fails
              exact Or.inl ⟨rfl, rfl⟩
          | some source =>
              simp only [read, Except.map, Option.map, compileSource_eq] at fails
              split at fails
              next template =>
                cases fails
                exact Or.inr (Source.template_error template)
              next => cases fails

def terms (base : Site) (deep : Prop) : Terms Site :=
  ⟨base.Echoes, DirectiveError, deep⟩

theorem admits_siteContext {base : Site} (calm : base.Calm) (deep : Prop) (model : Value) :
    (base.terms deep).Admits (siteContext base model [] siteWidgets) := by
  refine ⟨fun _ own _ => own, ?_, ?_, ?_, fun _ _ _ _ _ _ _ _ _ error _ => .parse error⟩
  · rintro _ ⟨⟩ name world echoes
    exact echoes.trans (lookupFragment_calm (echoes.calm calm) name).2
  · rintro _ ⟨⟩ line world echoes
    exact echoes.report line
  · rintro _ _ ⟨⟩ ⟨⟩ name world echoes
    exact ⟨echoes, nofun⟩

theorem renderPathBy_shadowed (calm : site.Calm) {cause : RenderError → Prop} {deep : Prop}
    {first second : Nested Site} (path : String) (model : Value)
    (shadows : ∀ base : Site, base.Calm → base.fresh = site.fresh → ∀ template,
      Shadows ⟨base.Echoes, cause, deep⟩ Anything
        (first (siteContext base model [] siteWidgets) template)
        (second (siteContext base model [] siteWidgets) template)) :
    renderPathBy second path model [] siteWidgets site =
        renderPathBy first path model [] siteWidgets site ∧
      ∀ error, (renderPathBy first path model [] siteWidgets site).1 = .error error →
        (LiveViews.compiledView path site).1 = .error error ∨ RenderFailure cause deep error := by
  have viewed := viewCompiled calm path
  rw [renderPathBy, renderPathBy, SiteM.bind_apply, SiteM.bind_apply]
  cases answer : (LiveViews.compiledView path site).1 with
  | error error =>
      refine ⟨rfl, fun other fails => Or.inl ?_⟩
      cases fails
      rfl
  | ok compiled =>
      obtain ⟨same, failure⟩ := renderTemplateBy_shadowed
        (shadows _ viewed.calm viewed.fresh compiled.template) compiled.memory (Echoes.refl _)
      dsimp only [SiteM.bind_apply, SiteM.get_apply, SiteM.set_apply, SiteM.pure_apply]
      rw [same]
      exact ⟨rfl, fun error fails => Or.inr (failure error fails)⟩

/-- Asked in whatever way, the path is there or it is not, and asking leaves the site as it is. -/
structure Agrees (site : Site) (path : String) (there : Bool) : Prop where
  present : there = true ↔ site.Present path
  asked : viewExists path site = (.ok there, site)
  fetched : ∃ source?, fetch path site = (.ok source?, site) ∧ source?.isSome = there
  resolved : ∃ answer?, (resolve path site).1 = .ok answer? ∧ answer?.isSome = there

theorem agrees_on (calm : site.Calm) (path : String) (readable : site.Readable path) :
    ∃ there, site.Agrees path there := by
  rcases read : site.source path with error | source?
  · exact absurd read (source_of_readable readable error)
  · refine ⟨source?.isSome, ?_, ?_, ⟨source?, ?_, rfl⟩,
      ⟨source?.map fun source => (source, site.tokenAt path), ?_, by cases source? <;> rfl⟩⟩
    · cases source? with
      | none => simpa using absent_of_source read
      | some source => simpa using present_of_source read
    · rw [viewExists_calm calm, read]
      rfl
    · rw [fetch_calm calm, read]
    · rw [resolve_calm calm, read]
      rfl

/-- What looking up comes to: the first path that is there, or all paths where none is. -/
inductive Looked (site : Site) (candidates : List String) : ViewLookup → Prop
  | found (before : List String) (path : String) (after : List String)
      (split : candidates = before ++ path :: after)
      (earlier : ∀ other ∈ before, ¬site.Present other) (present : site.Present path) :
      Looked site candidates (.found path)
  | notFound (absent : ∀ path ∈ candidates, ¬site.Present path) :
      Looked site candidates (.notFound candidates)

theorem firstView_cases (site : Site) (paths : List String) :
    (site.firstView paths = .ok none ∧ ∀ path ∈ paths, site.source path = .ok none) ∨
      ∃ before path after, paths = before ++ path :: after ∧
        (∀ other ∈ before, site.source other = .ok none) ∧
        ((∃ error, site.source path = .error error ∧ site.firstView paths = .error error) ∨
          ∃ source, site.source path = .ok (some source) ∧
            site.firstView paths = .ok (some path)) := by
  induction paths with
  | nil => exact Or.inl ⟨rfl, by simp⟩
  | cons path rest ih =>
      rw [firstView]
      rcases read : site.source path with error | (_ | source)
      · exact Or.inr ⟨[], path, rest, rfl, by simp, Or.inl ⟨error, read, rfl⟩⟩
      · rcases ih with ⟨nothing, missing⟩ | ⟨before, found, after, split, missing, decided⟩
        · exact Or.inl ⟨nothing, List.forall_mem_cons.mpr ⟨read, missing⟩⟩
        · exact Or.inr ⟨path :: before, found, after, by rw [split, List.cons_append],
            List.forall_mem_cons.mpr ⟨read, missing⟩, decided⟩
      · exact Or.inr ⟨[], path, rest, rfl, by simp, Or.inr ⟨source, read, rfl⟩⟩

theorem lookup_cases (site : Site) (name : String) (routing : View.Routing) :
    (∃ error path, path ∈ viewPaths site.settings name routing ∧
      site.source path = .error error ∧ site.lookup name routing = .error error) ∨
    ∃ lookup, site.lookup name routing = .ok lookup ∧
      site.Looked (viewPaths site.settings name routing) lookup ∧
      ∀ path, lookup = .found path → ∃ source, site.source path = .ok (some source) := by
  unfold lookup
  rcases firstView_cases site (viewPaths site.settings name routing) with ⟨first, missing⟩ |
    ⟨before, path, after, split, missing, ⟨error, read, first⟩ | ⟨source, read, first⟩⟩
  · rw [first]
    exact Or.inr ⟨_, rfl, .notFound fun path member => absent_of_source (missing path member), nofun⟩
  · rw [first]
    exact Or.inl ⟨error, path, by simp [split], read, rfl⟩
  · rw [first]
    refine Or.inr ⟨_, rfl, .found before path after split
      (fun other member => absent_of_source (missing other member)) (present_of_source read), ?_⟩
    rintro _ ⟨⟩
    exact ⟨source, read⟩

/-- A render that fails did not compile its view, or fails for a cause that its directives leave. -/
theorem renderPath_failure (calm : site.Calm) {cause : RenderError → Prop} {model : Value}
    (admits : ∀ base : Site, base.Calm → base.fresh = site.fresh →
      Terms.Admits ⟨base.Echoes, cause, True⟩ (siteContext base model [] siteWidgets))
    {fuel : Nat} {path : String} {error : RenderError}
    (fails : (renderPath fuel path model [] siteWidgets site).1 = .error error) :
    (LiveViews.compiledView path site).1 = .error error ∨ RenderFailure cause True error := by
  rw [← renderPathBy_runTemplate] at fails
  have keeps : ∀ base : Site, base.Calm → base.fresh = site.fresh → ∀ template,
      Shadows ⟨base.Echoes, cause, True⟩ Anything
        (runTemplate fuel (siteContext base model [] siteWidgets) template)
        (runTemplate fuel (siteContext base model [] siteWidgets) template) :=
    fun base baseCalm same template =>
      shadows_runTemplate trivial fuel (admits base baseCalm same) template
  exact (renderPathBy_shadowed calm path model keeps).2 error fails

theorem renderPath_ne_notFound (calm : site.Calm) {path : String} {source : Source}
    (read : site.source path = .ok (some source)) (fuel : Nat) (model : Value) (missed : String) :
    (renderPath fuel path model [] siteWidgets site).1 ≠ .error (.notFound missed) := by
  intro fails
  have admits := fun (base : Site) (baseCalm : base.Calm) (_ : base.fresh = site.fresh) =>
    admits_siteContext baseCalm True model
  rcases renderPath_failure calm admits fails with compiling | rendering
  · rcases compiledView_error calm compiling with ⟨_, absent⟩ | own
    · rw [read] at absent
      cases absent
    · cases own
  · cases rendering with
    | cause directive => cases directive

theorem renderView_found (calm : site.Calm) {name path : String} {routing : View.Routing}
    (looked : site.lookup name routing = .ok (.found path)) (fuel : Nat) (model : Value) :
    (renderView fuel name routing model site).1 =
      (renderPath fuel path model [] siteWidgets site).1.mapError .render := by
  rw [← renderViewBy_runTemplate, renderViewBy_eq calm, looked]
  rfl

theorem renderPath_of_renderView (calm : site.Calm) {name path : String} {routing : View.Routing}
    (looked : site.lookup name routing = .ok (.found path)) {fuel : Nat} {model : Value}
    {error : RenderError}
    (fails : (renderView fuel name routing model site).1 = .error (.render error)) :
    (renderPath fuel path model [] siteWidgets site).1 = .error error := by
  rw [renderView_found calm looked] at fails
  cases ran : (renderPath fuel path model [] siteWidgets site).1 with
  | ok text =>
      rw [ran] at fails
      cases fails
  | error own =>
      rw [ran] at fails
      cases fails
      rfl

theorem renderView_ne_missing (calm : site.Calm) (fuel : Nat) (name : String) (routing : View.Routing)
    (model : Value) (missed : String) :
    (renderView fuel name routing model site).1 ≠ .error (.render (.notFound missed)) := by
  intro fails
  rcases lookup_cases site name routing with ⟨error, path, _, read, looked⟩ |
    ⟨path | searched, looked, _, there⟩
  · rw [← renderViewBy_runTemplate, renderViewBy_eq calm, looked] at fails
    cases fails
    cases source_error read
  · obtain ⟨source, read⟩ := there path rfl
    have missing := renderPath_of_renderView calm looked fails
    exact renderPath_ne_notFound calm read fuel model missed missing
  · rw [← renderViewBy_runTemplate, renderViewBy_eq calm, looked] at fails
    cases fails

end Site

/-- On a site that nobody else is writing to, whatever it keeps from earlier renders: all who ask for a
path that the fallback can read agree whether it is there; a lookup finds the first candidate that is,
or names all of them; and a render fails for want of a view just when no candidate is there, never
because the view it found is missing. -/
theorem lookup_agrees_with_rendering (site : Site) (calm : site.Calm) :
    (∀ path, site.Readable path → ∃ there, site.Agrees path there) ∧
    (∀ name routing, (∀ path ∈ viewPaths site.settings name routing, site.Readable path) →
      let candidates := viewPaths site.settings name routing
      (∃ lookup, findView name routing site = (.ok lookup, site) ∧ site.Looked candidates lookup) ∧
      ∀ fuel model missed searched,
        (renderView fuel name routing model site).1 = .error (.notFound missed searched) ↔
          missed = name ∧ searched = candidates ∧ ∀ path ∈ candidates, ¬site.Present path) ∧
    ∀ fuel name routing model path,
      (renderView fuel name routing model site).1 ≠ .error (.render (.notFound path)) := by
  refine ⟨fun path => site.agrees_on calm path, ?_, ?_⟩
  · intro name routing readable candidates
    obtain ⟨lookup, looked, first⟩ : ∃ lookup, site.lookup name routing = .ok lookup ∧
        site.Looked candidates lookup := by
      rcases Site.lookup_cases site name routing with ⟨error, path, member, read, _⟩ |
        ⟨lookup, looked, first, _⟩
      · exact absurd read (Site.source_of_readable (readable path member) error)
      · exact ⟨lookup, looked, first⟩
    refine ⟨⟨lookup, by rw [findView_calm calm, looked], first⟩, ?_⟩
    intro fuel model missed searched
    rw [← renderViewBy_runTemplate, Site.renderViewBy_eq calm, looked]
    cases first with
    | found before path after split earlier present =>
        constructor
        · show Except.mapError _ _ = _ → _
          rcases (renderPathBy (runTemplate fuel) path model [] siteWidgets site).1 with error | text
          · exact nofun
          · exact nofun
        · rintro ⟨_, _, absent⟩
          exact absurd present (absent path (by simp [split]))
    | notFound absent =>
        constructor
        · rintro ⟨⟩
          exact ⟨rfl, rfl, absent⟩
        · rintro ⟨rfl, rfl, _⟩
          rfl
  · intro fuel name routing model path
    exact Site.renderView_ne_missing calm fuel name routing model path

def withdrawnPage : Page where
  id := 1
  name := "old"
  path := "/home/old"
  body := "Page"
  status := .disabled

def withdrawnSite : Site where
  fallback := .files "/v"
  tree := ({} : File.Tree).put [['v'], "Shared".toList, "Old.liquid".toList] (.file "File".toUTF8 1)
  stores := { pages := ⟨⟨[withdrawnPage], 1⟩, none⟩ }
  compiled := [("/Home/Old.liquid", ⟨0, ⟨.step (.text "Page") .done⟩, .empty⟩)]
  nextSerial := 1

theorem lookup_agrees_with_rendering_withdrawnSite : withdrawnSite.Calm ∧
    withdrawnSite.Agrees "/Home/Old.liquid" false ∧
    (∃ lookup, findView "Old" { controller := some "Home" } withdrawnSite =
        (.ok lookup, withdrawnSite) ∧
      withdrawnSite.Looked ["/Home/Old.liquid", "/Shared/Old.liquid"] lookup) ∧
    ∀ path, (renderView 8 "Old" { controller := some "Home" } .nil withdrawnSite).1 ≠
      .error (.render (.notFound path)) := by
  have calm : withdrawnSite.Calm := rfl
  obtain ⟨agrees, looks, never⟩ := lookup_agrees_with_rendering withdrawnSite calm
  have candidates : viewPaths withdrawnSite.settings "Old" { controller := some "Home" } =
      ["/Home/Old.liquid", "/Shared/Old.liquid"] := by decide +kernel
  have readable : ∀ path ∈ ["/Home/Old.liquid", "/Shared/Old.liquid"],
      withdrawnSite.Readable path := by
    have read : ∀ path ∈ ["/Home/Old.liquid", "/Shared/Old.liquid"],
        (fileSource withdrawnSite path).isOk = true := by decide +kernel
    intro path member error fails
    have fine := read path member
    rw [fails] at fine
    cases fine
  obtain ⟨there, agree⟩ := agrees "/Home/Old.liquid" (readable _ (by simp))
  have looked := (looks "Old" { controller := some "Home" } (candidates ▸ readable)).1
  rw [candidates] at looked
  obtain rfl : there = false := by
    have absent : (viewExists "/Home/Old.liquid" withdrawnSite).1.toOption = some false := by
      decide +kernel
    rw [agree.asked] at absent
    cases absent
    rfl
  exact ⟨calm, agree, looked, never 8 "Old" _ .nil⟩

example : (renderView 8 "Old" { controller := some "Home" } .nil withdrawnSite).1.toOption =
    some "File" := by
  decide +kernel

end LiveViews
