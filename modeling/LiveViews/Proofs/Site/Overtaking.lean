import LiveViews.Proofs.Site.Interleaving

/-!
What steps in between can do to templates that are kept. A compilation that tracks its key after its
token has fired evicts the path at once, and with it goes what others have tracked on the next token.
One of these that is about to keep its template then keeps it untracked, where no signal finds it
(`stale_for_good`). That is all that can go wrong (`safe_iff_nothing_strays`), and it takes such a
late tracking (`safe_of_timely`).
-/

namespace LiveViews

open LiveViews.Store LiveViews.Signal
open LiveViews.Liquid (Template)

namespace Traffic

/-- Whether a step keeps a template under a key that is not tracked. -/
def Strays (traffic : Traffic) : Turn → Prop
  | .finish index => ∃ view template, traffic.view? index true = some view ∧
      traffic.site.bus.hasChanged view.token = false ∧
      view.source.template view.key traffic.site.settings.maxRange = .ok template ∧
      view.key ∉ trackedKeys traffic.site view.normal
  | .begin _ | .track _ | .change _ | .signal _ => False

/-- Whether a step tracks a key on a token that has fired. -/
def Late (traffic : Traffic) : Turn → Prop
  | .track index => ∃ view, traffic.view? index false = some view ∧
      traffic.site.bus.hasChanged view.token = true
  | .begin _ | .finish _ | .change _ | .signal _ => False

/-- No template that is kept escapes the signals of its path, and none is older than a change of its
path that has been signalled. -/
structure Safe (traffic : Traffic) : Prop where
  dropped : ∀ key,
    (LiveViews.signal (traffic.site.normal key) traffic.site).2.holds key = false
  current : ∀ key compiled, traffic.site.compiled? key = some compiled →
    traffic.site.normal key ∉ traffic.unsignalled →
    traffic.site.template key = .ok compiled.template
  answered : ∀ key, traffic.site.normal key ∉ traffic.unsignalled →
    (compiledView key traffic.site).1.map Compiled.template = traffic.site.template key

/-- What is kept is tracked, and is current unless a change is yet to be signalled. -/
structure Kept (traffic : Traffic) : Prop where
  covered : traffic.site.Covered
  current : ∀ key compiled, traffic.site.compiled? key = some compiled →
    traffic.site.template key = .ok compiled.template ∨
      traffic.site.normal key ∈ traffic.unsignalled

variable {traffic : Traffic}

theorem Kept.safe (kept : traffic.Kept) (sound : traffic.Sound) : traffic.Safe := by
  have current : ∀ key compiled, traffic.site.compiled? key = some compiled →
      traffic.site.normal key ∉ traffic.unsignalled →
      traffic.site.template key = .ok compiled.template := by
    intro key compiled found signalled
    rcases kept.current key compiled found with now | changed
    · exact now
    · exact absurd changed signalled
  refine ⟨?_, current, ?_⟩
  · intro key
    unfold Site.holds
    rw [sound.wired.compiled?_signal kept.covered, if_pos rfl]
    rfl
  · intro key signalled
    rw [Site.compiledView_eq sound.calm sound.wired]
    cases found : traffic.site.compiled? key with
    | some compiled => exact (current key compiled found signalled).symm
    | none => cases traffic.site.template key <;> rfl

theorem Kept.follow (kept : traffic.Kept) {other : Traffic}
    (fresh : other.site.fresh = traffic.site.fresh) (covered : other.site.Covered)
    (old : ∀ key compiled, other.site.compiled? key = some compiled →
      traffic.site.compiled? key = some compiled ∧
        (traffic.site.normal key ∈ traffic.unsignalled →
          traffic.site.normal key ∈ other.unsignalled)) : other.Kept := by
  refine ⟨covered, ?_⟩
  intro key compiled found
  obtain ⟨before, waiting⟩ := old key compiled found
  rw [Site.template_fresh, fresh, ← Site.template_fresh, Site.normal_of_fresh fresh]
  rcases kept.current key compiled before with current | changed
  · exact Or.inl current
  · exact Or.inr (waiting changed)

theorem tracked_covered {site : Site} (wired : site.Wired) (covered : site.Covered)
    {view : Compilation} (path : view.token.path = view.normal) :
    (view.track site).2.Covered ∧ ∀ key compiled,
      (view.track site).2.compiled? key = some compiled → site.compiled? key = some compiled := by
  unfold Compilation.track
  rw [← path]
  by_cases live : site.bus.Live view.token
  · rw [wired.track_eq view.key live]
    exact ⟨fun key held => Site.mem_keysAt_tracking (covered key held), fun _ _ found => found⟩
  · obtain ⟨log, late⟩ := wired.track_late view.key live
    have kept : ∀ key compiled,
        ((site.evict view.token.path).invalidate view.key).compiled? key = some compiled →
        (site.evict view.token.path).compiled? key = some compiled := by
      intro key compiled found
      unfold Site.invalidate Site.compiled? at found
      rw [find?_filter_ne] at found
      split at found
      · cases found
      · exact found
    rw [late]
    refine ⟨(covered.evict view.token.path).of_same rfl rfl ?_, ?_⟩
    · intro key held
      obtain ⟨compiled, found⟩ := Option.isSome_iff_exists.mp held
      exact Option.isSome_iff_exists.mpr ⟨compiled, kept key compiled found⟩
    · intro key compiled found
      have evicted := kept key compiled found
      rw [Site.compiled?_evict] at evicted
      split at evicted
      · cases evicted
      · exact evicted

theorem Kept.begin (kept : traffic.Kept) (sound : traffic.Sound) (key : String) :
    (traffic.step (.begin key)).Kept := by
  have same : (traffic.step (.begin key)).site = traffic.site.asked key := by
    show (beginView key traffic.site).2 = _
    rw [Site.beginView_eq sound.calm]
  refine kept.follow ?_ ?_ ?_
  · rw [same]
    rfl
  · rw [same]
    exact kept.covered
  · rw [same]
    exact fun _ _ found => ⟨found, fun changed => changed⟩

theorem Kept.track (kept : traffic.Kept) (sound : traffic.Sound) (index : Nat) :
    (traffic.step (.track index)).Kept := by
  rcases step_track_cases traffic index with same | ⟨view, found, same⟩
  · rwa [same]
  · rw [same]
    have known := sound.views view (mem_of_view? found).1
    obtain ⟨covered, old⟩ := tracked_covered sound.wired kept.covered known.path
    refine kept.follow (traffic.site.notified_track _ _ _).fresh covered ?_
    exact fun key compiled found => ⟨old key compiled found, fun changed => changed⟩

theorem Kept.finish (kept : traffic.Kept) (sound : traffic.Sound) (index : Nat)
    (orderly : ¬traffic.Strays (.finish index)) : (traffic.step (.finish index)).Kept := by
  rcases step_finish_cases traffic index with same | ⟨view, found, same⟩
  · rwa [same]
  rw [same]
  rcases Site.finish_cases traffic.site view with ⟨serial, finished⟩ |
    ⟨template, unchanged, compiles, finished⟩
  · rw [finished]
    exact ⟨kept.covered, kept.current⟩
  · have known := sound.views view (mem_of_view? found).1
    have live := (Bus.hasChanged_eq_false sound.wired.sound).mp unchanged
    have tracked : view.key ∈ trackedKeys traffic.site view.normal := by
      by_contra untracked
      exact orderly ⟨view, template, found, unchanged, compiles, untracked⟩
    rw [known.here, Site.mem_trackedKeys] at tracked
    rw [finished]
    refine ⟨kept.covered.kept tracked template, ?_⟩
    intro key compiled held
    rw [Site.compiled?_kept] at held
    split at held
    next here =>
      subst here
      cases held
      rcases known.current live with current | changed
      · refine Or.inl ?_
        show traffic.site.template view.key = _
        unfold Site.template
        rw [current]
        exact compiles
      · exact Or.inr (known.here ▸ changed)
    next => exact kept.current key compiled held

theorem Kept.signal (kept : traffic.Kept) (sound : traffic.Sound) (path : String) :
    (traffic.step (.signal path)).Kept := by
  refine kept.follow (traffic.site.notified_signal path).fresh ?_ ?_
  · show (LiveViews.signal path traffic.site).2.Covered
    rw [sound.wired.signal_eq]
    exact kept.covered.evict path
  · intro key compiled found
    have signalled : (LiveViews.signal path traffic.site).2.compiled? key = some compiled := found
    rw [sound.wired.compiled?_signal kept.covered] at signalled
    split at signalled
    · cases signalled
    next other =>
      exact ⟨signalled, fun changed => (List.mem_erase_of_ne other).mpr changed⟩

theorem Kept.change (kept : traffic.Kept) (sound : traffic.Sound) (request : PageRequest)
    (left : (traffic.step (.change request)).site.pageCount < idCount) :
    (traffic.step (.change request)).Kept := by
  rcases step_change_cases traffic request with same | ⟨pages, log, paths, edit, same⟩
  · rwa [same]
  · rw [same] at left ⊢
    refine ⟨kept.covered, ?_⟩
    intro key compiled found
    by_cases here : traffic.site.normal key ∈ paths
    · exact Or.inr (List.mem_append_right _ here)
    · rcases kept.current key compiled found with current | changed
      · refine Or.inl ?_
        show (traffic.site.withPages pages log).template key = _
        rw [Site.template_withPages edit sound.pages left log here]
        exact current
      · exact Or.inr (List.mem_append_left _ changed)

theorem Kept.step (kept : traffic.Kept) (sound : traffic.Sound) {turn : Turn}
    (orderly : ¬traffic.Strays turn) (left : (traffic.step turn).site.pageCount < idCount) :
    (traffic.step turn).Kept := by
  cases turn with
  | begin key => exact kept.begin sound key
  | track index => exact kept.track sound index
  | finish index => exact kept.finish sound index orderly
  | change request => exact kept.change sound request left
  | signal path => exact kept.signal sound path

theorem Kept.run (kept : traffic.Kept) (sound : traffic.Sound) (turns : List Turn)
    (orderly : ∀ past turn, past ++ [turn] <+: turns → ¬(traffic.run past).Strays turn)
    (left : (traffic.run turns).site.pageCount < idCount) : (traffic.run turns).Kept := by
  induction turns using List.reverseRecOn with
  | nil => exact kept
  | append_singleton past turn ih =>
      have leftBefore := left_within sound.calm (List.prefix_append past [turn]) left
      have before := ih (fun earlier next within =>
        orderly earlier next (within.trans (List.prefix_append _ _))) leftBefore
      rw [run_append] at left ⊢
      exact before.step (sound.run past leftBefore) (orderly past turn (List.prefix_refl _)) left

/-- What strays stays, whatever is signalled for its path. -/
theorem not_safe_of_strays (sound : traffic.Sound) {turn : Turn} (strays : traffic.Strays turn) :
    ¬(traffic.step turn).Safe := by
  intro safe
  cases turn with
  | finish index =>
      obtain ⟨view, template, found, unchanged, compiles, untracked⟩ := strays
      have known := sound.views view (mem_of_view? found).1
      rw [known.here, Site.mem_trackedKeys] at untracked
      have finished : (traffic.step (.finish index)).site = traffic.site.kept view.key template := by
        simp only [step, found]
        exact Site.finish_eq unchanged compiles
      have wired : (traffic.site.kept view.key template).Wired := sound.wired.of_same rfl rfl rfl
      have dropped := safe.dropped view.key
      have missed : view.key ∉ (traffic.site.kept view.key template).keysAt
          ((traffic.site.kept view.key template).normal view.key) := untracked
      rw [finished, wired.signal_eq] at dropped
      have held : ((traffic.site.kept view.key template).evict
          ((traffic.site.kept view.key template).normal view.key)).holds view.key = true := by
        unfold Site.holds
        rw [Site.compiled?_evict, if_neg missed, Site.compiled?_kept, if_pos rfl]
        rfl
      exact absurd (held.symm.trans dropped) (by simp)
  | begin key => exact strays
  | track index => exact strays
  | change request => exact strays
  | signal path => exact strays

def Tracks (traffic : Traffic) : Prop :=
  ∀ view ∈ traffic.views, view.tracked = true → traffic.site.bus.Live view.token →
    view.key ∈ traffic.site.keysAt view.normal

theorem Tracks.orderly (tracks : traffic.Tracks) (sound : traffic.Sound) (turn : Turn) :
    ¬traffic.Strays turn := by
  intro strays
  cases turn with
  | finish index =>
      obtain ⟨view, _, found, unchanged, _, untracked⟩ := strays
      obtain ⟨member, tracked⟩ := mem_of_view? found
      have live := (Bus.hasChanged_eq_false sound.wired.sound).mp unchanged
      exact untracked (Site.mem_trackedKeys.mpr (tracks view member tracked live))
  | begin key => exact strays
  | track index => exact strays
  | change request => exact strays
  | signal path => exact strays

theorem Tracks.begin (tracks : traffic.Tracks) (sound : traffic.Sound) (key : String) :
    (traffic.step (.begin key)).Tracks := by
  have follows := Site.follows_begin sound.calm sound.wired key
  intro view member tracked live
  show view.key ∈ (beginView key traffic.site).2.keysAt view.normal
  rcases List.mem_append.mp member with old | new
  · have known := tracks view old tracked (sound.live_before follows old live)
    rw [Site.beginView_eq sound.calm]
    exact known
  · obtain ⟨_, _, rfl⟩ := Site.eq_of_begun sound.calm new
    cases tracked

theorem Tracks.track (tracks : traffic.Tracks) (sound : traffic.Sound) (index : Nat)
    (timely : ¬traffic.Late (.track index)) : (traffic.step (.track index)).Tracks := by
  rcases step_track_cases traffic index with same | ⟨view, found, same⟩
  · rwa [same]
  · have known := sound.views view (mem_of_view? found).1
    have follows := Site.follows_track sound.calm sound.wired known.here known.path
    have live : traffic.site.bus.Live view.token := by
      rw [← Bus.hasChanged_eq_false sound.wired.sound, ← Bool.not_eq_true]
      exact fun changed => timely ⟨view, found, changed⟩
    have entered := sound.wired.track_eq view.key live
    rw [known.path] at entered
    rw [same]
    intro other member tracked liveAfter
    show other.key ∈ (LiveViews.track view.key view.normal view.token traffic.site).2.keysAt
      other.normal
    rw [entered]
    rcases List.mem_or_eq_of_mem_set member with old | rfl
    · exact Site.mem_keysAt_tracking
        (tracks other old tracked (sound.live_before follows old liveAfter))
    · rw [Site.keysAt_tracking, if_pos rfl]
      exact Site.mem_addKey.mpr (Or.inl rfl)

theorem Tracks.finish (tracks : traffic.Tracks) (sound : traffic.Sound) (index : Nat) :
    (traffic.step (.finish index)).Tracks := by
  rcases step_finish_cases traffic index with same | ⟨view, found, same⟩
  · rwa [same]
  · have follows := Site.follows_finish sound.calm sound.wired view
    rw [same]
    intro other member tracked live
    have old := List.mem_of_mem_eraseIdx member
    have known := tracks other old tracked (sound.live_before follows old live)
    show other.key ∈ (view.finish traffic.site).2.keysAt other.normal
    rcases Site.finish_cases traffic.site view with ⟨_, finished⟩ | ⟨_, _, _, finished⟩
    · rw [finished]
      exact known
    · rw [finished]
      exact known

theorem Tracks.signal (tracks : traffic.Tracks) (sound : traffic.Sound) (path : String) :
    (traffic.step (.signal path)).Tracks := by
  intro view member tracked live
  obtain ⟨before, other⟩ := sound.live_signal member live
  show view.key ∈ (LiveViews.signal path traffic.site).2.keysAt view.normal
  rw [sound.wired.signal_eq]
  show view.key ∈ (traffic.site.evict path).keysAt view.normal
  rw [Site.keysAt_evict, if_neg other]
  exact tracks view member tracked before

theorem Tracks.step (tracks : traffic.Tracks) (sound : traffic.Sound) {turn : Turn}
    (timely : ¬traffic.Late turn) : (traffic.step turn).Tracks := by
  cases turn with
  | begin key => exact tracks.begin sound key
  | track index => exact tracks.track sound index timely
  | finish index => exact tracks.finish sound index
  | change request =>
      rcases step_change_cases traffic request with same | ⟨pages, log, paths, _, same⟩
      · rwa [same]
      · rw [same]
        exact tracks
  | signal path => exact tracks.signal sound path

theorem Tracks.run (tracks : traffic.Tracks) (sound : traffic.Sound) (turns : List Turn)
    (timely : ∀ past turn, past ++ [turn] <+: turns → ¬(traffic.run past).Late turn)
    (left : (traffic.run turns).site.pageCount < idCount) : (traffic.run turns).Tracks := by
  induction turns using List.reverseRecOn with
  | nil => exact tracks
  | append_singleton past turn ih =>
      have leftBefore := left_within sound.calm (List.prefix_append past [turn]) left
      have before := ih (fun earlier next within =>
        timely earlier next (within.trans (List.prefix_append _ _))) leftBefore
      rw [run_append]
      exact before.step (sound.run past leftBefore) (timely past turn (List.prefix_refl _))

/-- As long as nothing strays, what is kept on a site that was just opened is safe. -/
theorem safe_of_orderly {start : Site} (opened : start.Opened)
    (sound : start.stores.pages.table.Sound) {turns : List Turn}
    (orderly : ∀ past turn, past ++ [turn] <+: turns →
      ¬(Traffic.run { site := start } past).Strays turn)
    (left : (Traffic.run { site := start } turns).site.pageCount < idCount) :
    (Traffic.run { site := start } turns).Safe := by
  have begun : ({ site := start } : Traffic).Sound := opened.traffic sound
  have kept : ({ site := start } : Traffic).Kept :=
    ⟨opened.covered, fun key compiled found => by simp [opened.compiled?] at found⟩
  exact (kept.run begun turns orderly left).safe (begun.run turns left)

end Traffic

/-- Pages may be written and views compiled all at the same time, and no template that is kept is ever
out of date or out of reach, exactly if none is kept that others have untracked. An id is a word of 32
bits, so that fewer pages have to be added than there are ids (`left`): the ids of more wrap around, and
a page takes the place of an older one. -/
theorem safe_iff_nothing_strays (start : Site) (opened : start.Opened)
    (sound : start.stores.pages.table.Sound) (turns : List Turn)
    (left : (Traffic.run { site := start } turns).site.pageCount < idCount) :
    (∀ past, past <+: turns → (Traffic.run { site := start } past).Safe) ↔
      ∀ past turn, past ++ [turn] <+: turns → ¬(Traffic.run { site := start } past).Strays turn := by
  have leftAt : ∀ past, past <+: turns →
      (Traffic.run { site := start } past).site.pageCount < idCount :=
    fun past within => Traffic.left_within opened.calm within left
  constructor
  · intro safe past turn within strays
    have after := safe (past ++ [turn]) within
    have before := leftAt past ((List.prefix_append _ _).trans within)
    rw [Traffic.run_append] at after
    exact Traffic.not_safe_of_strays ((opened.traffic sound).run past before) strays after
  · intro orderly past within
    exact Traffic.safe_of_orderly opened sound
      (fun earlier turn inside => orderly earlier turn (inside.trans within)) (leftAt past within)

/-- The compilation that was begun first tracks its key late, and unseats the second one. -/
def overtaking : List Turn :=
  [.change ⟨"home", "Old", "/home/index"⟩, .signal "/home/index", .begin "/home/index",
    .change ⟨"home", "New", "/home/index"⟩, .signal "/home/index", .begin "/home/index",
    .track 1, .track 0, .finish 1, .finish 0,
    .change ⟨"home", "Newer", "/home/index"⟩, .signal "/home/index"]

def leadingText : Template → Option String
  | ⟨.step (.text content) _⟩ => some content
  | _ => none

/-- Nothing is being compiled and everything is signalled, and still a template is kept that is not
what its source compiles to. -/
theorem stale_for_good :
    let traffic := Traffic.run { site := {} } overtaking
    traffic.views = [] ∧ traffic.unsignalled = [] ∧ ∃ key compiled,
      traffic.site.compiled? key = some compiled ∧ traffic.site.template key ≠ .ok compiled.template := by
  intro traffic
  have old : (traffic.site.compiled? "/home/index").map
      (fun compiled => leadingText compiled.template) = some (some "New") := by decide +kernel
  have now : (traffic.site.template "/home/index").toOption.map leadingText = some (some "Newer") := by
    decide +kernel
  obtain ⟨compiled, found, text⟩ := Option.map_eq_some_iff.mp old
  refine ⟨by decide +kernel, by decide +kernel, "/home/index", compiled, found, ?_⟩
  intro same
  rw [same] at now
  have both : some (some "New") = some (some "Newer") := by
    rw [← text]
    exact now
  simp at both

theorem safe_iff_nothing_strays_overtaking :
    (Traffic.run { site := {} } overtaking).site.pageCount < idCount ∧
    ((∀ past, past <+: overtaking → (Traffic.run { site := {} } past).Safe) ↔
      ∀ past turn, past ++ [turn] <+: overtaking →
        ¬(Traffic.run { site := {} } past).Strays turn) :=
  ⟨by decide +kernel, safe_iff_nothing_strays {} ⟨rfl, rfl, rfl, rfl⟩ Table.sound_new
    overtaking (by decide +kernel)⟩

theorem safe_of_timely (start : Site) (opened : start.Opened)
    (sound : start.stores.pages.table.Sound) (turns : List Turn)
    (timely : ∀ past turn, past ++ [turn] <+: turns → ¬(Traffic.run { site := start } past).Late turn)
    (left : (Traffic.run { site := start } turns).site.pageCount < idCount) :
    (Traffic.run { site := start } turns).Safe := by
  have begun : ({ site := start } : Traffic).Sound := opened.traffic sound
  have untracked : ({ site := start } : Traffic).Tracks := by
    intro view member
    cases member
  refine Traffic.safe_of_orderly opened sound ?_ left
  intro past turn within
  have inside := (List.prefix_append past [turn]).trans within
  have leftAt := Traffic.left_within opened.calm inside left
  have tracks := untracked.run begun past
    (fun earlier next prior => timely earlier next (prior.trans inside)) leftAt
  exact tracks.orderly (begun.run past leftAt) turn

end LiveViews
