import LiveViews.Proofs.Site.Coherence

/-!
Views compiled and pages written at the same time. A compilation is three steps, a written page is a
change of the store and then a signal, and the steps of one may fall between those of another.
-/

namespace LiveViews

open LiveViews.Store LiveViews.Signal
open LiveViews.Liquid (Template)

/-- A view that is being compiled. Its token was taken before its source was read. -/
structure Compilation where
  key : String
  normal : String
  token : Token
  source : Source
  tracked : Bool := false

def beginView (key : String) : SiteM (Except RenderError Compilation) := do
  let normal ← normalOf key
  let token ← tokenOf normal
  match ← readSource key normal with
  | .error error => return .error error
  | .ok none => return .error (.notFound key)
  | .ok (some source) => return .ok { key, normal, token, source }

def Compilation.track (view : Compilation) : SiteM Unit :=
  LiveViews.track view.key view.normal view.token

def Compilation.finish (view : Compilation) : SiteM (Except RenderError Compiled) :=
  compileSource view.key view.source view.token

/-- A site in use, the views that are being compiled on it, and the paths whose pages have changed
and are yet to be signalled. -/
structure Traffic where
  site : Site
  views : List Compilation := []
  unsignalled : List String := []

inductive Turn where
  | begin (key : String)
  | track (index : Nat)
  | finish (index : Nat)
  | change (request : PageRequest)
  /-- A signal of a path is also that of a change that shows there, if one is waiting. -/
  | signal (path : String)

namespace Traffic

def view? (traffic : Traffic) (index : Nat) (tracked : Bool) : Option Compilation :=
  traffic.views[index]?.filter fun view => view.tracked = tracked

def step (traffic : Traffic) : Turn → Traffic
  | .begin key =>
    let begun := beginView key traffic.site
    { traffic with site := begun.2, views := traffic.views ++ begun.1.toOption.toList }
  | .track index =>
    match traffic.view? index false with
    | none => traffic
    | some view =>
      { traffic with
        site := (view.track traffic.site).2
        views := traffic.views.set index { view with tracked := true } }
  | .finish index =>
    match traffic.view? index true with
    | none => traffic
    | some view =>
      { traffic with
        site := (view.finish traffic.site).2
        views := traffic.views.eraseIdx index }
  | .change request =>
    let changed := changePage request traffic.site
    { traffic with site := changed.2, unsignalled := traffic.unsignalled ++ changed.1 }
  | .signal path =>
    { traffic with
      site := (LiveViews.signal path traffic.site).2
      unsignalled := traffic.unsignalled.erase path }

def run (traffic : Traffic) (turns : List Turn) : Traffic :=
  turns.foldl step traffic

theorem run_append (traffic : Traffic) (past turns : List Turn) :
    traffic.run (past ++ turns) = (traffic.run past).run turns :=
  List.foldl_append

/-- With nothing in between, the steps of a compilation are those of a view that is not kept. -/
theorem run_compile (traffic : Traffic) {key : String}
    (missing : traffic.site.compiled? key = none) :
    traffic.run [.begin key, .track traffic.views.length, .finish traffic.views.length] =
      { traffic with site := (compiledView key traffic.site).2 } := by
  rw [compiledView, SiteM.bind_apply, SiteM.get_apply, missing]
  simp only [run, List.foldl, step, beginView, resolve, SiteM.bind_apply]
  generalize readSource key _ _ = read
  rcases read with ⟨error | (_ | source), site⟩
  · simp [view?, Except.toOption]
  · simp [view?, Except.toOption]
  · simp [view?, Except.toOption, Option.filter, Compilation.track, Compilation.finish,
      List.eraseIdx_append_of_length_le]

theorem run_signals (traffic : Traffic) (paths : List String) :
    (traffic.run (paths.map .signal)).site = traffic.site.signalAll paths := by
  induction paths generalizing traffic with
  | nil => rfl
  | cons path rest ih => exact ih _

/-- With nothing in between, a change and its signals are those of a page that is written. -/
theorem run_write (traffic : Traffic) (calm : traffic.site.Calm) (request : PageRequest) :
    (traffic.run (.change request ::
      (changePage request traffic.site).1.map .signal)).site =
      (writePage request traffic.site).2 := by
  rw [writePage_eq calm]
  exact run_signals _ _

/-- What is known of a view that is being compiled. As long as its token has not fired, its source is
what is read now, or the change is yet to be signalled. -/
structure ViewSound (traffic : Traffic) (view : Compilation) : Prop where
  here : view.normal = traffic.site.normal view.key
  path : view.token.path = view.normal
  made : view.token.id < traffic.site.bus.nextId
  current : traffic.site.bus.Live view.token →
    traffic.site.source view.key = .ok (some view.source) ∨ view.normal ∈ traffic.unsignalled

/-- What holds whatever the order of the steps. -/
structure Sound (traffic : Traffic) : Prop where
  calm : traffic.site.Calm
  wired : traffic.site.Wired
  pages : traffic.site.stores.pages.table.Sound
  views : ∀ view ∈ traffic.views, traffic.ViewSound view

end Traffic

namespace Site

variable {site : Site}

structure Follows (site other : Site) : Prop where
  wired : other.Wired
  calm : other.Calm
  fresh : other.fresh = site.fresh
  bus : site.bus.Later other.bus

theorem beginView_eq (calm : site.Calm) (key : String) :
    beginView key site = ((site.source key).bind fun found =>
      match found with
      | none => .error (.notFound key)
      | some source => .ok { key, normal := site.normal key, token := site.tokenAt key, source },
      site.asked key) := by
  have askedCalm : (site.asked key).Calm := calm
  have read : readSource key (normalOf key site).1
      (tokenOf (normalOf key site).1 (normalOf key site).2).2 =
      (site.source key, site.asked key) := readSource_calm askedCalm key
  simp only [beginView, SiteM.bind_apply]
  rw [read]
  rcases site.source key with error | (_ | source) <;> rfl

theorem eq_of_begun (calm : site.Calm) {key : String} {view : Compilation}
    (begun : view ∈ (beginView key site).1.toOption.toList) :
    ∃ source, site.source key = .ok (some source) ∧
      view = { key, normal := site.normal key, token := site.tokenAt key, source } := by
  rw [beginView_eq calm] at begun
  rcases found : site.source key with error | (_ | source)
  · rw [found] at begun
    cases begun
  · rw [found] at begun
    cases begun
  · rw [found] at begun
    exact ⟨source, rfl, List.mem_singleton.mp begun⟩

theorem follows_begin (calm : site.Calm) (wired : site.Wired) (key : String) :
    site.Follows (beginView key site).2 := by
  rw [beginView_eq calm]
  exact ⟨wired.asked key, calm, rfl, Bus.later_token _ _⟩

theorem later_tracking (wired : site.Wired) (key path : String) (token : Token) :
    site.bus.Later (site.tracking key path token).bus := by
  unfold tracking
  dsimp only
  split
  · exact Bus.Later.refl _
  · exact Bus.later_wait wired.sound _ _

theorem follows_track (calm : site.Calm) (wired : site.Wired) {view : Compilation}
    (here : view.normal = site.normal view.key) (path : view.token.path = view.normal) :
    site.Follows (view.track site).2 := by
  obtain ⟨fresh, rival, _⟩ := site.notified_track view.key view.normal view.token
  have calmAfter : (view.track site).2.Calm := rival.trans calm
  unfold Compilation.track at calmAfter ⊢
  rw [← path] at here fresh calmAfter ⊢
  by_cases live : site.bus.Live view.token
  · rw [wired.track_eq view.key live] at fresh calmAfter ⊢
    exact ⟨wired.tracking live here.symm, calmAfter, fresh, later_tracking wired _ _ _⟩
  · obtain ⟨log, late⟩ := wired.track_late view.key live
    have evicted := wired.evict view.token.path
    have sameBus : (site.evict view.token.path).bus = site.bus := by rw [evict_eq]
    refine ⟨?_, calmAfter, fresh, ?_⟩
    · rw [late]
      exact evicted.of_same rfl rfl rfl
    · rw [late]
      show site.bus.Later (site.evict view.token.path).bus
      rw [sameBus]
      exact Bus.Later.refl _

theorem finish_eq {view : Compilation} {template : Template}
    (unchanged : site.bus.hasChanged view.token = false)
    (compiles : view.source.template view.key site.settings.maxRange = .ok template) :
    (view.finish site).2 = site.kept view.key template := by
  unfold Compilation.finish
  rw [compileSource_eq, compiles]
  simp [unchanged]

theorem finish_cases (site : Site) (view : Compilation) :
    (∃ serial, (view.finish site).2 = { site with nextSerial := serial }) ∨
    ∃ template, site.bus.hasChanged view.token = false ∧
      view.source.template view.key site.settings.maxRange = .ok template ∧
      (view.finish site).2 = site.kept view.key template := by
  cases compiles : view.source.template view.key site.settings.maxRange with
  | error error =>
      refine Or.inl ⟨site.nextSerial, ?_⟩
      unfold Compilation.finish
      rw [compileSource_eq, compiles]
  | ok template =>
      cases changed : site.bus.hasChanged view.token with
      | false => exact Or.inr ⟨template, rfl, rfl, finish_eq changed compiles⟩
      | true =>
          refine Or.inl ⟨site.nextSerial + 1, ?_⟩
          unfold Compilation.finish
          rw [compileSource_eq, compiles]
          simp [changed]

theorem finish_frame (site : Site) (view : Compilation) :
    (view.finish site).2.fresh = site.fresh ∧ (view.finish site).2.rival = site.rival := by
  rcases finish_cases site view with ⟨serial, same⟩ | ⟨template, _, _, same⟩
  · rw [same]
    exact ⟨rfl, rfl⟩
  · rw [same]
    exact ⟨rfl, rfl⟩

theorem follows_finish (calm : site.Calm) (wired : site.Wired) (view : Compilation) :
    site.Follows (view.finish site).2 := by
  rcases finish_cases site view with ⟨serial, same⟩ | ⟨template, _, _, same⟩
  · rw [same]
    exact ⟨wired.of_same rfl rfl rfl, calm, rfl, Bus.Later.refl _⟩
  · rw [same]
    exact ⟨wired.of_same rfl rfl rfl, calm, rfl, Bus.Later.refl _⟩

theorem follows_signal (calm : site.Calm) (wired : site.Wired) (path : String) :
    site.Follows (LiveViews.signal path site).2 := by
  obtain ⟨fresh, rival, _⟩ := site.notified_signal path
  refine ⟨wired.signal path, rival.trans calm, fresh, ?_⟩
  rw [wired.signal_eq]
  exact Bus.later_fire wired.sound path

end Site

namespace Traffic

variable {traffic : Traffic}

theorem mem_of_view? {index : Nat} {tracked : Bool} {view : Compilation}
    (found : traffic.view? index tracked = some view) :
    view ∈ traffic.views ∧ view.tracked = tracked := by
  obtain ⟨known, same⟩ := Option.filter_eq_some_iff.mp found
  exact ⟨List.mem_of_getElem? known, by simpa using same⟩

theorem step_track_cases (traffic : Traffic) (index : Nat) :
    traffic.step (.track index) = traffic ∨ ∃ view, traffic.view? index false = some view ∧
      traffic.step (.track index) =
        { traffic with
          site := (view.track traffic.site).2
          views := traffic.views.set index { view with tracked := true } } := by
  cases found : traffic.view? index false with
  | none => exact Or.inl (by simp [step, found])
  | some view => exact Or.inr ⟨view, rfl, by simp [step, found]⟩

theorem step_finish_cases (traffic : Traffic) (index : Nat) :
    traffic.step (.finish index) = traffic ∨ ∃ view, traffic.view? index true = some view ∧
      traffic.step (.finish index) =
        { traffic with
          site := (view.finish traffic.site).2
          views := traffic.views.eraseIdx index } := by
  cases found : traffic.view? index true with
  | none => exact Or.inl (by simp [step, found])
  | some view => exact Or.inr ⟨view, rfl, by simp [step, found]⟩

theorem step_change_cases (traffic : Traffic) (request : PageRequest) :
    traffic.step (.change request) = traffic ∨ ∃ pages log paths,
      PagesEdit traffic.site.stores.pages pages paths ∧ traffic.step (.change request) =
        { traffic with
          site := traffic.site.withPages pages log
          unsignalled := traffic.unsignalled ++ paths } := by
  rcases changePage_cases traffic.site request with same | ⟨pages, log, paths, edit, same⟩
  · exact Or.inl (by simp [step, same])
  · exact Or.inr ⟨pages, log, paths, edit, by simp [step, same]⟩

theorem ViewSound.follow {view : Compilation} (sound : traffic.ViewSound view) {other : Traffic}
    (follows : traffic.site.Follows other.site)
    (waiting : other.site.bus.Live view.token → view.normal ∈ traffic.unsignalled →
      view.normal ∈ other.unsignalled) : other.ViewSound view := by
  refine ⟨?_, sound.path, Nat.lt_of_lt_of_le sound.made follows.bus.made, ?_⟩
  · rw [Site.normal_of_fresh follows.fresh]
    exact sound.here
  · intro live
    rw [Site.source_fresh, follows.fresh, ← Site.source_fresh]
    rcases sound.current (follows.bus.live view.token sound.made live) with current | changed
    · exact Or.inl current
    · exact Or.inr (waiting live changed)

theorem Sound.follow (sound : traffic.Sound) {other : Traffic}
    (follows : traffic.site.Follows other.site)
    (views : ∀ view ∈ other.views, other.ViewSound view) : other.Sound :=
  ⟨follows.calm, follows.wired, Site.pages_of_fresh follows.fresh sound.pages, views⟩

theorem Sound.begin (sound : traffic.Sound) (key : String) : (traffic.step (.begin key)).Sound := by
  have follows := Site.follows_begin sound.calm sound.wired key
  refine sound.follow follows ?_
  intro view member
  rcases List.mem_append.mp member with old | new
  · exact (sound.views view old).follow follows fun _ changed => changed
  · obtain ⟨source, found, rfl⟩ := Site.eq_of_begun sound.calm new
    have live := Site.live_asked traffic.site key
    have sameSite : (traffic.step (.begin key)).site = traffic.site.asked key := by
      show (beginView key traffic.site).2 = _
      rw [Site.beginView_eq sound.calm]
    refine ⟨?_, Site.tokenAt_path traffic.site key, ?_, ?_⟩
    · rw [sameSite]
      rfl
    · rw [sameSite]
      obtain ⟨slot, member, same⟩ := live
      exact same ▸ (sound.wired.asked key).sound.made slot member
    · intro _
      rw [sameSite]
      exact Or.inl found

theorem Sound.track (sound : traffic.Sound) (index : Nat) : (traffic.step (.track index)).Sound := by
  rcases step_track_cases traffic index with same | ⟨view, found, same⟩
  · rwa [same]
  · rw [same]
    have known := sound.views view (mem_of_view? found).1
    have follows := Site.follows_track sound.calm sound.wired known.here known.path
    refine sound.follow follows ?_
    intro other member
    rcases List.mem_or_eq_of_mem_set member with old | rfl
    · exact (sound.views other old).follow follows fun _ changed => changed
    · have same : ({ traffic with site := (view.track traffic.site).2 } : Traffic).ViewSound view :=
        known.follow follows fun _ changed => changed
      exact ⟨same.here, same.path, same.made, same.current⟩

theorem Sound.finish (sound : traffic.Sound) (index : Nat) : (traffic.step (.finish index)).Sound := by
  rcases step_finish_cases traffic index with same | ⟨view, _, same⟩
  · rwa [same]
  · rw [same]
    have follows := Site.follows_finish sound.calm sound.wired view
    refine sound.follow follows ?_
    intro other member
    have old := List.mem_of_mem_eraseIdx member
    exact (sound.views other old).follow follows fun _ changed => changed

theorem Sound.live_before (sound : traffic.Sound) {other : Site}
    (follows : traffic.site.Follows other) {view : Compilation} (member : view ∈ traffic.views)
    (live : other.bus.Live view.token) : traffic.site.bus.Live view.token :=
  follows.bus.live view.token (sound.views view member).made live

theorem Sound.live_signal (sound : traffic.Sound) {path : String} {view : Compilation}
    (member : view ∈ traffic.views)
    (live : (LiveViews.signal path traffic.site).2.bus.Live view.token) :
    traffic.site.bus.Live view.token ∧ view.normal ≠ path := by
  have known := sound.views view member
  rw [sound.wired.signal_eq] at live
  rw [← known.path]
  exact Bus.live_fire sound.wired.sound known.made live

theorem Sound.signal (sound : traffic.Sound) (path : String) :
    (traffic.step (.signal path)).Sound := by
  have follows := Site.follows_signal sound.calm sound.wired path
  refine sound.follow follows ?_
  intro view member
  refine (sound.views view member).follow follows ?_
  intro live changed
  exact (List.mem_erase_of_ne (sound.live_signal member live).2).mpr changed

theorem Sound.change (sound : traffic.Sound) (request : PageRequest)
    (left : (traffic.step (.change request)).site.pageCount < idCount) :
    (traffic.step (.change request)).Sound := by
  rcases step_change_cases traffic request with same | ⟨pages, log, paths, edit, same⟩
  · rwa [same]
  · rw [same] at left ⊢
    refine ⟨sound.calm, sound.wired.of_same rfl rfl rfl, edit.sound sound.pages, ?_⟩
    intro view member
    have known := sound.views view member
    refine ⟨known.here, known.path, known.made, ?_⟩
    intro live
    by_cases here : view.normal ∈ paths
    · exact Or.inr (List.mem_append_right _ here)
    · rcases known.current live with current | before
      · rw [known.here] at here
        refine Or.inl ?_
        show (traffic.site.withPages pages log).source view.key = _
        rw [Site.source_withPages edit sound.pages left log here]
        exact current
      · exact Or.inr (List.mem_append_left _ before)

theorem Sound.step (sound : traffic.Sound) (turn : Turn)
    (left : (traffic.step turn).site.pageCount < idCount) : (traffic.step turn).Sound := by
  cases turn with
  | begin key => exact sound.begin key
  | track index => exact sound.track index
  | finish index => exact sound.finish index
  | change request => exact sound.change request left
  | signal path => exact sound.signal path

theorem calm_step (calm : traffic.site.Calm) (turn : Turn) :
    (traffic.step turn).site.Calm ∧
      traffic.site.pageCount ≤ (traffic.step turn).site.pageCount := by
  have unseen : ∀ other : Site,
      other.fresh = traffic.site.fresh ∧ other.rival = traffic.site.rival →
      other.Calm ∧ traffic.site.pageCount ≤ other.pageCount := by
    intro other same
    exact ⟨same.2.trans calm, Nat.le_of_eq (Site.pageCount_of_fresh same.1.symm)⟩
  cases turn with
  | begin key =>
      refine unseen _ ?_
      show (beginView key traffic.site).2.fresh = _ ∧ (beginView key traffic.site).2.rival = _
      rw [Site.beginView_eq calm]
      exact ⟨rfl, rfl⟩
  | track index =>
      rcases step_track_cases traffic index with same | ⟨view, _, same⟩
      · rw [same]
        exact ⟨calm, Nat.le_refl _⟩
      · rw [same]
        have notified := traffic.site.notified_track view.key view.normal view.token
        exact unseen _ ⟨notified.fresh, notified.rival⟩
  | finish index =>
      rcases step_finish_cases traffic index with same | ⟨view, _, same⟩
      · rw [same]
        exact ⟨calm, Nat.le_refl _⟩
      · rw [same]
        exact unseen _ (Site.finish_frame traffic.site view)
  | change request =>
      rcases step_change_cases traffic request with same | ⟨pages, log, paths, edit, same⟩
      · rw [same]
        exact ⟨calm, Nat.le_refl _⟩
      · rw [same]
        exact ⟨calm, edit.sequence_le⟩
  | signal path =>
      have notified := traffic.site.notified_signal path
      exact unseen _ ⟨notified.fresh, notified.rival⟩

theorem calm_run (calm : traffic.site.Calm) (turns : List Turn) :
    (traffic.run turns).site.Calm ∧ traffic.site.pageCount ≤ (traffic.run turns).site.pageCount := by
  induction turns generalizing traffic with
  | nil => exact ⟨calm, Nat.le_refl _⟩
  | cons turn rest ih =>
      obtain ⟨calmNow, before⟩ := calm_step calm turn
      obtain ⟨calmThen, after⟩ := ih calmNow
      exact ⟨calmThen, Nat.le_trans before after⟩

theorem left_within (calm : traffic.site.Calm) {past turns : List Turn} (within : past <+: turns)
    (left : (traffic.run turns).site.pageCount < idCount) :
    (traffic.run past).site.pageCount < idCount := by
  obtain ⟨rest, rfl⟩ := within
  rw [run_append] at left
  exact Nat.lt_of_le_of_lt (calm_run (calm_run calm past).1 rest).2 left

theorem Sound.run (sound : traffic.Sound) (turns : List Turn)
    (left : (traffic.run turns).site.pageCount < idCount) :
    (traffic.run turns).Sound := by
  induction turns using List.reverseRecOn with
  | nil => exact sound
  | append_singleton past turn ih =>
      have before := ih (left_within sound.calm (List.prefix_append _ _) left)
      rw [run_append] at left ⊢
      exact before.step turn left

end Traffic

theorem Site.Opened.traffic {start : Site} (opened : start.Opened)
    (sound : start.stores.pages.table.Sound) : ({ site := start } : Traffic).Sound :=
  ⟨opened.calm, opened.wired, sound, by simp⟩

end LiveViews
