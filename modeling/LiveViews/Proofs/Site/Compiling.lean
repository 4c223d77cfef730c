import LiveViews.Proofs.Site.Tracking

/-!
What resolving and compiling a path does to a calm, indexed site, and that it stays indexed.
-/

namespace LiveViews

open LiveViews.Store LiveViews.Signal
open LiveViews.Liquid (Template)

namespace Site

variable {site : Site}

def asked (site : Site) (path : String) : Site :=
  { site with bus := (site.bus.token (site.normal path)).2 }

def tokenAt (site : Site) (path : String) : Token :=
  (site.bus.token (site.normal path)).1

def resolved (site : Site) (path : String) : Site :=
  match site.source path with
  | .ok (some _) => (site.asked path).tracking path (site.normal path) (site.tokenAt path)
  | .ok none | .error _ => site.asked path

theorem live_asked (site : Site) (path : String) :
    (site.asked path).bus.Live (site.tokenAt path) :=
  Bus.live_token _ _

theorem tokenAt_path (site : Site) (path : String) :
    (site.tokenAt path).path = site.normal path :=
  Bus.token_path _ _

theorem Wired.asked (wired : site.Wired) (path : String) : (site.asked path).Wired :=
  wired.token _

theorem Indexed.asked (indexed : site.Indexed) (path : String) : (site.asked path).Indexed :=
  indexed.token _

theorem resolve_calm (calm : site.Calm) (path : String) :
    resolve path site = ((site.source path).map (Option.map fun source =>
      (source, site.tokenAt path)),
      match site.source path with
      | .ok (some _) => (track path (site.normal path) (site.tokenAt path) (site.asked path)).2
      | .ok none | .error _ => site.asked path) := by
  have askedCalm : (site.asked path).Calm := calm
  have read : readSource path (normalOf path site).1
      (tokenOf (normalOf path site).1 (normalOf path site).2).2 =
      (site.source path, site.asked path) := readSource_calm askedCalm path
  simp only [resolve, SiteM.bind_apply]
  rw [read]
  rcases site.source path with error | (_ | source) <;> rfl

theorem notified_resolve (calm : site.Calm) (path : String) :
    site.Notified (resolve path site).2 := by
  have asked : site.Notified (site.asked path) := ⟨rfl, rfl, fun _ member => member⟩
  rw [resolve_calm calm]
  rcases site.source path with error | (_ | source)
  · exact asked
  · exact asked
  · exact asked.trans (notified_track _ path _ _)

theorem resolve_eq (calm : site.Calm) (wired : site.Wired) (path : String) :
    resolve path site = ((site.source path).map (Option.map fun source =>
      (source, site.tokenAt path)), site.resolved path) := by
  have tracked := (wired.asked path).track_eq path (live_asked site path)
  rw [tokenAt_path] at tracked
  rw [resolve_calm calm, tracked]
  rfl

theorem Wired.resolved (wired : site.Wired) (path : String) : (site.resolved path).Wired := by
  have asked := wired.asked path
  unfold Site.resolved
  split
  · have here : (site.asked path).normal path = (site.tokenAt path).path :=
      (tokenAt_path site path).symm
    have tracked := asked.tracking (live_asked site path) here
    rwa [tokenAt_path] at tracked
  · exact asked
  · exact asked

theorem Indexed.resolved (indexed : site.Indexed) (path : String) : (site.resolved path).Indexed := by
  unfold Site.resolved
  split
  · have here : (site.asked path).normal path = (site.tokenAt path).path :=
      (tokenAt_path site path).symm
    have tracked := (indexed.asked path).tracking (live_asked site path) here
    rwa [tokenAt_path] at tracked
  · exact indexed.asked path
  · exact indexed.asked path

theorem resolved_same (site : Site) (path : String) : ∃ bus tracked,
    site.resolved path = { site with bus := bus, tracked := tracked } := by
  unfold Site.resolved
  split
  · exact ⟨_, _, rfl⟩
  · exact ⟨_, site.tracked, rfl⟩
  · exact ⟨_, site.tracked, rfl⟩

theorem live_resolved (wired : site.Wired) (path : String) :
    (site.resolved path).bus.Live (site.tokenAt path) := by
  have live := live_asked site path
  unfold Site.resolved
  split
  · have slots := (wired.asked path).tracking_slots path live
    rw [tokenAt_path] at slots
    obtain ⟨slot, member, same⟩ := live
    refine ⟨(site.asked path).rewired (site.normal path) slot, ?_, ?_⟩
    · rw [slots]
      exact List.mem_map_of_mem member
    · rw [rewired_token, same]
  · exact live
  · exact live

def kept (site : Site) (path : String) (template : Template) : Site :=
  { site with
    nextSerial := site.nextSerial + 1
    compiled := (path, ⟨site.nextSerial, template, .empty⟩) ::
      site.compiled.filter fun entry => entry.1 ≠ path }

theorem publish_eq (site : Site) (key : String) (compiled : Compiled) (token : Token) :
    publish key compiled token site =
      if site.bus.hasChanged token then (false, site)
      else (true, { site with
        compiled := (key, compiled) :: site.compiled.filter fun entry => entry.1 ≠ key }) := by
  unfold publish
  rw [SiteM.bind_apply, SiteM.get_apply]
  split <;> rfl

theorem compileSource_eq (site : Site) (path : String) (source : Source) (token : Token) :
    compileSource path source token site =
      match source.template path site.settings.maxRange with
      | .error error => (.error error, site)
      | .ok template => (.ok ⟨site.nextSerial, template, .empty⟩,
          if site.bus.hasChanged token then { site with nextSerial := site.nextSerial + 1 }
          else site.kept path template) := by
  unfold compileSource Source.template
  cases String.fromUTF8? source.bytes with
  | none => rfl
  | some text =>
      simp only [compileText, SiteM.bind_apply, SiteM.get_apply]
      rcases parseView site.settings.maxRange text with (error | _) | template
      · rfl
      · rfl
      · simp only [SiteM.modifyGet_apply, SiteM.bind_apply, SiteM.pure_apply, SiteM.discard_apply,
          publish_eq]
        by_cases changed : site.bus.hasChanged token = true
        · simp only [changed, if_true]
        · simp only [changed]
          rfl

def keeping (site : Site) (path : String) (template : Template) : Site :=
  (site.resolved path).kept path template

theorem compiledView_eq (calm : site.Calm) (wired : site.Wired) (path : String) :
    compiledView path site =
      match site.compiled? path, site.template path with
      | some compiled, _ => (.ok compiled, site)
      | none, .error error => (.error error, site.resolved path)
      | none, .ok template =>
        (.ok ⟨site.nextSerial, template, .empty⟩, site.keeping path template) := by
  rw [compiledView, SiteM.bind_apply, SiteM.get_apply]
  cases site.compiled? path with
  | some compiled => rfl
  | none =>
      obtain ⟨_, _, same⟩ := resolved_same site path
      have unchanged := (Bus.hasChanged_eq_false (wired.resolved path).sound).mpr
        (live_resolved wired path)
      have range : (site.resolved path).settings = site.settings := by rw [same]
      have serial : (site.resolved path).nextSerial = site.nextSerial := by rw [same]
      simp only [SiteM.bind_apply, resolve_eq calm wired path]
      unfold Site.template keeping
      rcases site.source path with error | (_ | source)
      · rfl
      · rfl
      · simp only [Except.map, Option.map, compileSource_eq, range, serial, unchanged]
        cases source.template path site.settings.maxRange <;> rfl

theorem compiled?_kept (site : Site) (path key : String) (template : Template) :
    (site.kept path template).compiled? key =
      if key = path then some ⟨site.nextSerial, template, .empty⟩ else site.compiled? key := by
  unfold compiled? kept
  rw [List.find?_cons]
  by_cases here : key = path
  · simp [here]
  · have apart : ¬path = key := fun same => here same.symm
    simp only [apart, decide_false, find?_filter_ne, here, if_false]

theorem compiled?_keeping (site : Site) (path key : String) (template : Template) :
    (site.keeping path template).compiled? key =
      if key = path then some ⟨site.nextSerial, template, .empty⟩ else site.compiled? key := by
  obtain ⟨_, _, same⟩ := resolved_same site path
  unfold keeping
  rw [compiled?_kept, same]
  rfl

theorem Covered.kept (covered : site.Covered) {path : String}
    (tracked : path ∈ site.keysAt (site.normal path)) (template : Template) :
    (site.kept path template).Covered := by
  intro key held
  show key ∈ site.keysAt (site.normal key)
  unfold Site.holds at held
  rw [compiled?_kept] at held
  split at held
  next here => exact here ▸ tracked
  next => exact covered key held

theorem Indexed.keeping (indexed : site.Indexed) {path : String} {template : Template}
    (compiles : site.template path = .ok template) : (site.keeping path template).Indexed := by
  have resolved := indexed.resolved path
  obtain ⟨_, _, same⟩ := resolved_same site path
  have sameNormal : (site.resolved path).normal = site.normal := by
    rw [same]
    rfl
  have found : ∃ source, site.source path = .ok (some source) := by
    unfold Site.template at compiles
    split at compiles
    · cases compiles
    · cases compiles
    next source found => exact ⟨source, found⟩
  obtain ⟨source, found⟩ := found
  have tracked : path ∈ (site.resolved path).keysAt ((site.resolved path).normal path) := by
    rw [sameNormal]
    simp only [Site.resolved, found]
    rw [keysAt_tracking, if_pos rfl]
    exact mem_addKey.mpr (Or.inl rfl)
  exact ⟨resolved.wired.of_same rfl rfl rfl, resolved.covered.kept tracked template, resolved.single⟩

theorem Indexed.compiledView (calm : site.Calm) (indexed : site.Indexed) (path : String) :
    (LiveViews.compiledView path site).2.Indexed := by
  rw [compiledView_eq calm indexed.wired]
  cases site.compiled? path with
  | some compiled => exact indexed
  | none =>
      cases compiles : site.template path with
      | error error => exact indexed.resolved path
      | ok template => exact indexed.keeping compiles

structure ViewCompiled (base : Site) (path : String)
    (ran : Except RenderError Compiled × Site) : Prop where
  fresh : ran.2.fresh = base.fresh
  calm : ran.2.Calm
  kept : ∀ entry ∈ ran.2.compiled, entry ∈ base.compiled ∨ entry.2.memory = .empty
  answer : ∀ compiled, ran.1 = .ok compiled →
    (path, compiled) ∈ base.compiled ∨ compiled.memory = .empty

theorem ViewCompiled.failed {base after : Site} {path : String} (calm : base.Calm)
    (notified : base.Notified after) (error : RenderError) :
    ViewCompiled base path (.error error, after) :=
  ⟨notified.fresh, notified.rival.trans calm, fun entry member => Or.inl (notified.kept entry member),
    fun _ impossible => nomatch impossible⟩

theorem viewCompiled (calm : site.Calm) (path : String) :
    site.ViewCompiled path (compiledView path site) := by
  rw [compiledView, SiteM.bind_apply, SiteM.get_apply]
  cases known : site.compiled? path with
  | some compiled =>
      refine ⟨rfl, calm, fun _ member => Or.inl member, ?_⟩
      rintro _ ⟨⟩
      exact Or.inl (mem_of_compiled? known)
  | none =>
      have notified := notified_resolve calm path
      simp only [SiteM.bind_apply]
      generalize resolve path site = resolved at notified ⊢
      obtain ⟨error | (_ | ⟨source, token⟩), after⟩ := resolved
      · exact .failed calm notified error
      · exact .failed calm notified _
      · simp only [compileSource_eq]
        cases source.template path after.settings.maxRange with
        | error error => exact .failed calm notified error
        | ok template =>
            have answer : ∀ compiled, Except.ok ⟨after.nextSerial, template, .empty⟩ =
                (.ok compiled : Except RenderError Compiled) →
                (path, compiled) ∈ site.compiled ∨ compiled.memory = .empty := by
              rintro _ ⟨⟩
              exact Or.inr rfl
            dsimp only
            split
            · exact ⟨notified.fresh, notified.rival.trans calm,
                fun entry member => Or.inl (notified.kept entry member), answer⟩
            · refine ⟨notified.fresh, notified.rival.trans calm, fun entry member => ?_, answer⟩
              rcases List.mem_cons.mp member with rfl | old
              · exact Or.inr rfl
              · exact Or.inl (notified.kept entry (List.mem_of_mem_filter old))

end Site

end LiveViews
