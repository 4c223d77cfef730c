import LiveViews.Proofs.Site.Compiling

/-!
Rendering on a quiet site: a calm one whose templates remember only what is true, whoever waits for
its changes. A render reads what a fresh site has, and of the rest it changes only what is compiled,
tracked and logged. A steady site is quiet and indexed.
-/

namespace LiveViews

open LiveViews.Store LiveViews.Signal
open LiveViews.Liquid (Template Value Members)

inductive Services where
  | absent
  | empty
  | stored
  | custom (content? : String → Except RenderError (Option String))

def Services.source : Services → WidgetSource Site
  | .absent => .noLocator
  | .empty => .noService
  | .stored => siteWidgets
  | .custom content? => .service fun name site => (content? name, site)

namespace Site

variable {site : Site}

/-- A site that differs from its base in its log only. -/
def Echoes (base site : Site) : Prop :=
  site = { base with log := site.log }

theorem Echoes.refl (site : Site) : site.Echoes site := rfl

theorem Echoes.report {base : Site} (echoes : base.Echoes site) (line : LogLine) :
    base.Echoes (site.report line) := by
  unfold Echoes at *
  rw [echoes]
  rfl

theorem Echoes.trans {base other : Site} (echoes : base.Echoes site) (more : site.Echoes other) :
    base.Echoes other := by
  unfold Echoes at *
  rw [more, echoes]

theorem Echoes.fresh {base : Site} (echoes : base.Echoes site) : site.fresh = base.fresh := by
  rw [echoes]
  rfl

theorem Echoes.calm {base : Site} (echoes : base.Echoes site) (calm : base.Calm) : site.Calm := by
  unfold Calm at *
  rw [echoes]
  exact calm

theorem Echoes.notified {base : Site} (echoes : base.Echoes site) : base.Notified site := by
  rw [echoes]
  exact ⟨rfl, rfl, fun _ member => member⟩

theorem firstText_fresh (site : Site) (paths : List String) :
    site.firstText paths = site.fresh.firstText paths := by
  induction paths with
  | nil => rfl
  | cons path rest ih =>
      rw [firstText, firstText, ih]
      rfl

def fragment (site : Site) (name : String) : Option String :=
  match site.firstText (fragmentPaths site.settings name) with
  | .ok text => text
  | .error _ => none

theorem fragment_congr {first second : Site} (same : first.fresh = second.fresh) (name : String) :
    first.fragment name = second.fragment name := by
  have reads : ∀ site : Site, site.fragment name = site.fresh.fragment name := by
    intro site
    unfold fragment
    rw [firstText_fresh]
    rfl
  rw [reads first, reads second, same]

theorem source_of_fragment {name text : String} (found : site.fragment name = some text) :
    ∃ path source, site.source path = .ok (some source) ∧
      String.fromUTF8? source.bytes = some text := by
  have loads : ∀ paths, site.firstText paths = .ok (some text) → ∃ path source,
      site.source path = .ok (some source) ∧ String.fromUTF8? source.bytes = some text := by
    intro paths loaded
    induction paths with
    | nil => cases loaded
    | cons path rest ih =>
        unfold firstText at loaded
        split at loaded
        · cases loaded
        · exact ih loaded
        next source read =>
          split at loaded
          next decoded =>
            cases loaded
            exact ⟨path, source, read, decoded⟩
          next => cases loaded
  unfold fragment at found
  split at found
  next loaded =>
    subst found
    exact loads _ loaded
  next => cases found

theorem lookupFragment_calm (calm : site.Calm) (name : String) :
    (lookupFragment name site).1 = site.fragment name ∧
      site.Echoes (lookupFragment name site).2 := by
  have loaded := loadFirst_calm calm (fragmentPaths site.settings name)
  simp only [lookupFragment, loadFragment, SiteM.bind_apply, SiteM.get_apply, loaded, fragment]
  cases site.firstText (fragmentPaths site.settings name) with
  | ok text => exact ⟨rfl, rfl⟩
  | error error => exact ⟨rfl, (Echoes.refl site).report _⟩

def Paired (left right first second : Site) : Prop :=
  left.Echoes first ∧ right.Echoes second

theorem siteContext_respects {left right : Site} (leftCalm : left.Calm) (rightCalm : right.Calm)
    (same : left.fresh = right.fresh) (model : Value) (ambient : Members) (services : Services) :
    (siteContext left model ambient services.source).Respects (Paired left right)
      left.settings.maxRange := by
  constructor
  · rintro _ ⟨⟩ name first second ⟨firstEchoes, secondEchoes⟩
    have firstLooked := lookupFragment_calm (firstEchoes.calm leftCalm) name
    have secondLooked := lookupFragment_calm (secondEchoes.calm rightCalm) name
    have sameNow : first.fresh = second.fresh := by
      rw [firstEchoes.fresh, secondEchoes.fresh, same]
    refine ⟨?_, firstEchoes.trans firstLooked.2, secondEchoes.trans secondLooked.2⟩
    rw [firstLooked.1, secondLooked.1, fragment_congr sameNow]
  · rintro _ ⟨⟩
    refine ⟨rfl, ?_, ?_⟩
    · rintro line first second ⟨firstEchoes, secondEchoes⟩
      exact ⟨firstEchoes.report line, secondEchoes.report line⟩
    · rintro content? found name first second ⟨firstEchoes, secondEchoes⟩
      have sameStores : first.stores = second.stores := by
        have sameNow : first.fresh = second.fresh := by
          rw [firstEchoes.fresh, secondEchoes.fresh, same]
        show first.fresh.stores = second.fresh.stores
        rw [sameNow]
      cases services with
      | absent => cases found
      | empty => cases found
      | stored =>
          cases found
          refine ⟨?_, firstEchoes, secondEchoes⟩
          show Except.ok (activeContent first.stores.widgets.table.rows name) =
            Except.ok (activeContent second.stores.widgets.table.rows name)
          rw [sameStores]
      | custom content? =>
          cases found
          exact ⟨rfl, firstEchoes, secondEchoes⟩

theorem renderTemplate_fresh {left right : Site} (leftCalm : left.Calm) (rightCalm : right.Calm)
    (same : left.fresh = right.fresh) (fuel : Nat) (template : Template) (model : Value)
    (ambient : Members) (services : Services) {memory known : Memory}
    (holds : memory.Holds left.settings.maxRange) (knownHolds : known.Holds left.settings.maxRange) :
    let first := renderTemplate fuel (siteContext left model ambient services.source) template
      memory none left
    let second := renderTemplate fuel (siteContext right model ambient services.source) template
      known none right
    first.result = second.result ∧ first.memory.Holds left.settings.maxRange ∧
      left.Echoes first.world := by
  have sameContext : siteContext right model ambient services.source =
      siteContext left model ambient services.source := by
    have settings : left.fresh.settings = right.fresh.settings := by rw [same]
    have now : left.fresh.now = right.fresh.now := by rw [same]
    simp only [fresh] at settings now
    simp only [siteContext, settings, now]
  have paired : Paired left right left right := ⟨rfl, rfl⟩
  have agree := renderTemplate_agree
    (siteContext_respects leftCalm rightCalm same model ambient services) fuel template holds
    knownHolds paired
  rw [sameContext]
  exact ⟨agree.1, agree.2.1, agree.2.2.1⟩

/-- What is kept remembers only what is true. -/
structure Quiet (site : Site) : Prop where
  calm : site.Calm
  memory : ∀ entry ∈ site.compiled, entry.2.memory.Holds site.settings.maxRange

structure Steady (site : Site) : Prop where
  calm : site.Calm
  indexed : site.Indexed
  memory : ∀ entry ∈ site.compiled, entry.2.memory.Holds site.settings.maxRange

theorem Steady.quiet (steady : site.Steady) : site.Quiet :=
  ⟨steady.calm, steady.memory⟩

theorem Quiet.notified {after : Site} (quiet : site.Quiet) (notified : site.Notified after) :
    after.Quiet := by
  refine ⟨notified.rival.trans quiet.calm, ?_⟩
  rw [settings_of_fresh notified.fresh]
  exact fun entry member => quiet.memory entry (notified.kept entry member)

theorem Quiet.echo {other : Site} (quiet : site.Quiet) (echoes : site.Echoes other) :
    other.Quiet :=
  quiet.notified echoes.notified

theorem Quiet.compiledView (quiet : site.Quiet) (path : String) :
    (LiveViews.compiledView path site).2.Quiet := by
  have compiled := viewCompiled quiet.calm path
  refine ⟨compiled.calm, fun entry member => ?_⟩
  rw [settings_of_fresh compiled.fresh]
  rcases compiled.kept entry member with old | empty
  · exact quiet.memory entry old
  · rw [empty]
    exact trivial

theorem Quiet.compiled_memory (quiet : site.Quiet) {path : String} {compiled : Compiled}
    (answer : (LiveViews.compiledView path site).1 = .ok compiled) :
    compiled.memory.Holds site.settings.maxRange := by
  rcases (viewCompiled quiet.calm path).answer compiled answer with old | empty
  · exact quiet.memory _ old
  · rw [empty]
    exact trivial

theorem Quiet.remember (quiet : site.Quiet) (path : String) (compiled : Compiled)
    {memory : Memory} (holds : memory.Holds site.settings.maxRange) :
    (LiveViews.remember path compiled memory site).Quiet := by
  refine ⟨quiet.calm, fun entry member => ?_⟩
  obtain ⟨old, oldMem, rfl⟩ := List.mem_map.mp member
  split
  · exact holds
  · exact quiet.memory old oldMem

theorem Quiet.renderPath_cases (quiet : site.Quiet) (fuel : Nat) (path : String) (model : Value)
    (ambient : Members) (services : Services) :
    (renderPath fuel path model ambient services.source site).2 = (LiveViews.compiledView path site).2 ∨
    ∃ compiled memory world, (LiveViews.compiledView path site).2.Echoes world ∧
      memory.Holds world.settings.maxRange ∧
      (renderPath fuel path model ambient services.source site).2 =
        LiveViews.remember path compiled memory world := by
  have viewed := viewCompiled quiet.calm path
  rw [renderPath, SiteM.bind_apply]
  cases answer : (LiveViews.compiledView path site).1 with
  | error error => exact Or.inl rfl
  | ok compiled =>
      have holds := quiet.compiled_memory answer
      rw [← settings_of_fresh viewed.fresh] at holds
      obtain ⟨_, remembered, echoes⟩ := renderTemplate_fresh viewed.calm viewed.calm rfl fuel
        compiled.template model ambient services holds holds
      rw [← settings_of_fresh echoes.fresh] at remembered
      exact Or.inr ⟨compiled, _, _, echoes, remembered, rfl⟩

theorem Quiet.renderPath (quiet : site.Quiet) (fuel : Nat) (path : String) (model : Value)
    (ambient : Members) (services : Services) :
    (LiveViews.renderPath fuel path model ambient services.source site).2.Quiet ∧
      (LiveViews.renderPath fuel path model ambient services.source site).2.fresh = site.fresh := by
  have compiling := quiet.compiledView path
  have same := (viewCompiled quiet.calm path).fresh
  rcases quiet.renderPath_cases fuel path model ambient services with rendered |
    ⟨compiled, memory, world, echoes, holds, rendered⟩
  · rw [rendered]
    exact ⟨compiling, same⟩
  · rw [rendered]
    exact ⟨(compiling.echo echoes).remember path compiled holds, echoes.fresh.trans same⟩

theorem compiled?_remember (site : Site) (path key : String) (compiled : Compiled)
    (memory : Memory) : (remember path compiled memory site).compiled? key =
      (site.compiled? key).map fun entry =>
        if key = path ∧ entry.serial = compiled.serial then { entry with memory := memory }
        else entry := by
  unfold compiled? remember
  rw [List.find?_map, Option.map_map, Option.map_map]
  have sameKey : ((fun entry : String × Compiled => decide (entry.1 = key)) ∘ fun entry =>
      if entry.1 = path && entry.2.serial = compiled.serial then
        (path, { entry.2 with memory := memory })
      else entry) = fun entry => decide (entry.1 = key) := by
    funext entry
    simp only [Function.comp_apply]
    split
    next own =>
      simp only [Bool.and_eq_true, decide_eq_true_eq] at own
      rw [own.1]
    next => rfl
  rw [sameKey]
  cases found : site.compiled.find? fun entry => entry.1 = key with
  | none => rfl
  | some entry =>
      have here : entry.1 = key := by simpa using List.find?_some found
      by_cases own : key = path ∧ entry.2.serial = compiled.serial
      · simp [here, own.1, own.2]
      · have other : ¬(entry.1 = path ∧ entry.2.serial = compiled.serial) := by
          rwa [here]
        simp [own, other]

theorem holds_remember (site : Site) (path key : String) (compiled : Compiled) (memory : Memory) :
    (remember path compiled memory site).holds key = site.holds key := by
  unfold holds
  rw [compiled?_remember, Option.isSome_map]

theorem Steady.echo {other : Site} (steady : site.Steady) (echoes : site.Echoes other) :
    other.Steady := by
  rw [echoes]
  exact ⟨steady.calm, steady.indexed.of_same rfl rfl rfl fun _ held => held, steady.memory⟩

theorem Indexed.renderPath (quiet : site.Quiet) (indexed : site.Indexed) (fuel : Nat) (path : String)
    (model : Value) (ambient : Members) (services : Services) :
    (LiveViews.renderPath fuel path model ambient services.source site).2.Indexed := by
  have compiling := indexed.compiledView quiet.calm path
  rcases quiet.renderPath_cases fuel path model ambient services with rendered |
    ⟨compiled, memory, world, echoes, _, rendered⟩
  · rwa [rendered]
  · rw [rendered, echoes]
    refine compiling.of_same rfl rfl rfl fun key held => ?_
    rwa [holds_remember] at held

end Site

end LiveViews
