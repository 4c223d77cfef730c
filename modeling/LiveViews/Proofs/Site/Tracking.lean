import LiveViews.Proofs.Signal.Slots
import LiveViews.Proofs.Site.Reading

/-!
Tracking. On an indexed site the templates that are kept, the spellings that are tracked and the
callbacks that wait are in step, so that one signal of a normal path drops exactly what was compiled
under its spellings (`compiled?_signal`).
-/

namespace LiveViews

open LiveViews.Store LiveViews.Signal

def evictor (path : String) : Callback SiteEffect :=
  .mk (.evict path) .done

namespace Site

def keysAt (site : Site) (path : String) : List String :=
  ((site.tracked? path).map Tracked.keys).getD []

def Covered (site : Site) : Prop :=
  ∀ key, site.holds key = true → key ∈ site.keysAt (site.normal key)

/-- An eviction waits for whatever is tracked. -/
structure Wired (site : Site) : Prop where
  sound : site.bus.Sound
  spelled : ∀ path, ∀ key ∈ site.keysAt path, site.normal key = path
  live : ∀ path entry, site.tracked? path = some entry → ∃ slot ∈ site.bus.slots,
    slot.token.path = path ∧ entry.token = some slot.token ∧ evictor path ∈ slot.waiters
  waiters : ∀ slot ∈ site.bus.slots, ∀ waiter ∈ slot.waiters, waiter = evictor slot.token.path

structure Indexed (site : Site) : Prop where
  wired : site.Wired
  covered : site.Covered
  single : ∀ slot ∈ site.bus.slots, slot.waiters =
    if (site.tracked? slot.token.path).isSome then [evictor slot.token.path] else []

end Site

section Lists

variable {α : Type}

theorem find?_filter_ne (entries : List (String × α)) (key other : String) :
    (entries.filter fun entry => entry.1 ≠ key).find? (fun entry => entry.1 = other) =
      if other = key then none else entries.find? fun entry => entry.1 = other := by
  induction entries with
  | nil => simp
  | cons entry rest ih =>
      by_cases same : entry.1 = key
      · rw [List.filter_cons_of_neg (by simpa using same), ih, List.find?_cons]
        split
        · rfl
        next different =>
          have apart : ¬entry.1 = other := fun equal => different (equal ▸ same)
          simp [apart]
      · rw [List.filter_cons_of_pos (by simpa using same), List.find?_cons, List.find?_cons, ih]
        by_cases here : entry.1 = other
        · have apart : ¬other = key := fun equal => same (here.trans equal)
          simp [here, apart]
        · simp [here]

theorem find?_filter_notMem (entries : List (String × α)) (keys : List String) (other : String) :
    (entries.filter fun entry => entry.1 ∉ keys).find? (fun entry => entry.1 = other) =
      if other ∈ keys then none else entries.find? fun entry => entry.1 = other := by
  induction entries with
  | nil => simp
  | cons entry rest ih =>
      by_cases dropped : entry.1 ∈ keys
      · rw [List.filter_cons_of_neg (by simpa using dropped), ih, List.find?_cons]
        split
        · rfl
        next kept =>
          have apart : ¬entry.1 = other := fun equal => kept (equal ▸ dropped)
          simp [apart]
      · rw [List.filter_cons_of_pos (by simpa using dropped), List.find?_cons, List.find?_cons, ih]
        by_cases here : entry.1 = other
        · have kept : other ∉ keys := here ▸ dropped
          simp [here, kept]
        · simp [here]

end Lists

namespace Site

variable {site : Site}

theorem invalidateAll_eq (keys : List String) (site : Site) :
    keys.foldl (fun site key => site.invalidate key) site =
      { site with compiled := site.compiled.filter fun entry => entry.1 ∉ keys } := by
  induction keys generalizing site with
  | nil => simp
  | cons key rest ih =>
      rw [List.foldl_cons, ih]
      simp only [invalidate, List.filter_filter]
      congr 1
      refine List.filter_congr fun entry _ => ?_
      simp only [List.mem_cons, not_or, decide_not, Bool.decide_and]
      exact Bool.and_comm _ _

theorem holds_of_mem {entry : String × Compiled} (member : entry ∈ site.compiled) :
    site.holds entry.1 = true := by
  unfold holds compiled?
  rw [Option.isSome_map]
  exact List.find?_isSome.mpr ⟨entry, member, by simp⟩

theorem mem_of_compiled? {key : String} {compiled : Compiled}
    (found : site.compiled? key = some compiled) : (key, compiled) ∈ site.compiled := by
  simp only [compiled?, Option.map_eq_some_iff] at found
  obtain ⟨entry, found, rfl⟩ := found
  have here : entry.1 = key := by simpa using List.find?_some found
  rw [← here]
  exact List.mem_of_find?_eq_some found

def evictLog (site : Site) (path : String) : List LogLine :=
  let held := (site.keysAt path).filter fun key => site.holds key
  if held.isEmpty then site.log
  else
    site.log ++ [⟨"store",
      path ++ " changed, evicted " ++ toString held.length ++ " cached view(s)"⟩]

theorem evict_eq (site : Site) (path : String) : site.evict path =
    { site with
      compiled := site.compiled.filter fun entry => entry.1 ∉ site.keysAt path
      tracked := site.tracked.filter fun entry => entry.1 ≠ path
      log := site.evictLog path } := by
  have same : (site.compiled.filter fun entry =>
      entry.1 ∉ (site.keysAt path).filter fun key => site.holds key) =
      site.compiled.filter fun entry => entry.1 ∉ site.keysAt path := by
    refine List.filter_congr fun entry member => ?_
    simp [holds_of_mem member]
  unfold evict evictLog
  dsimp only
  rw [invalidateAll_eq]
  simp only [keysAt] at same ⊢
  rw [← same]
  split
  next nothing =>
    simp only [nothing, if_true]
    rfl
  next some =>
    simp only [some]
    rfl

theorem evict_withBus (site : Site) (bus : Bus SiteEffect) (path : String) :
    ({ site with bus := bus } : Site).evict path = { site.evict path with bus := bus } := by
  rw [evict_eq, evict_eq]
  rfl

theorem compiled?_evict (site : Site) (path key : String) :
    (site.evict path).compiled? key = if key ∈ site.keysAt path then none else site.compiled? key := by
  rw [evict_eq]
  simp only [compiled?, find?_filter_notMem]
  split <;> rfl

theorem tracked?_evict (site : Site) (path other : String) :
    (site.evict path).tracked? other = if other = path then none else site.tracked? other := by
  rw [evict_eq]
  simp only [tracked?, find?_filter_ne]
  split <;> rfl

theorem keysAt_evict (site : Site) (path other : String) :
    (site.evict path).keysAt other = if other = path then [] else site.keysAt other := by
  unfold keysAt
  rw [tracked?_evict]
  split <;> rfl

theorem Wired.slot?_of_tracked (wired : site.Wired) {path : String} {entry : Tracked}
    (tracked : site.tracked? path = some entry) : ∃ slot, site.bus.slot? path = some slot ∧
      entry.token = some slot.token ∧ evictor path ∈ slot.waiters := by
  obtain ⟨slot, member, rfl, token, waits⟩ := wired.live path entry tracked
  exact ⟨slot, wired.sound.slot?_eq member, token, waits⟩

theorem evict_of_untracked {path : String} (untracked : site.tracked? path = none) :
    site.evict path = site := by
  have nobody : site.tracked.filter (fun entry => entry.1 ≠ path) = site.tracked := by
    refine List.filter_eq_self.mpr fun entry member => ?_
    simp only [tracked?, Option.map_eq_none_iff, List.find?_eq_none, decide_eq_true_eq] at untracked
    simpa using untracked entry member
  have noKeys : site.keysAt path = [] := by
    simp [keysAt, untracked]
  rw [evict_eq, nobody]
  simp [evictLog, noKeys]

theorem Wired.fire_waiters (wired : site.Wired) (path : String) :
    (∀ waiter ∈ (site.bus.fire path).1, waiter = evictor path) ∧
      ((site.bus.fire path).1 = [] → site.tracked? path = none) := by
  rcases Bus.fire_cases wired.sound path with ⟨absent, fired⟩ | ⟨slot, found, fired⟩
  · refine ⟨by simp [fired], fun _ => ?_⟩
    cases tracked : site.tracked? path with
    | none => rfl
    | some entry =>
        obtain ⟨slot, known, _⟩ := wired.slot?_of_tracked tracked
        rw [known] at absent
        cases absent
  · rw [fired]
    constructor
    · obtain ⟨member, rfl⟩ := Bus.mem_of_slot? found
      exact wired.waiters slot member
    · intro nobody
      have empty : slot.waiters = [] := nobody
      cases tracked : site.tracked? path with
      | none => rfl
      | some entry =>
          obtain ⟨other, known, _, waits⟩ := wired.slot?_of_tracked tracked
          rw [found, Option.some.injEq] at known
          rw [← known, empty] at waits
          cases waits

theorem run_evictors (bus : Bus SiteEffect) (path : String) (waiters : List (Callback SiteEffect))
    (same : ∀ waiter ∈ waiters, waiter = evictor path) :
    run bus (waiters.map Task.call) = (bus, waiters.map fun _ => .evict path) := by
  induction waiters with
  | nil => simp [run]
  | cons waiter rest ih =>
      have later := ih fun other member => same other (List.mem_cons_of_mem _ member)
      rw [same waiter List.mem_cons_self]
      simp [evictor, run, later]

theorem evict_again (site : Site) (path : String) :
    (site.evict path).evict path = site.evict path :=
  evict_of_untracked (by rw [tracked?_evict, if_pos rfl])

theorem evict_often (site : Site) (path : String) {α : Type} (waiters : List α) :
    (waiters.map fun _ => SiteEffect.evict path).foldl perform (site.evict path) =
      site.evict path := by
  induction waiters with
  | nil => rfl
  | cons waiter rest ih =>
      rw [List.map_cons, List.foldl_cons]
      show List.foldl perform ((site.evict path).evict path) _ = _
      rw [evict_again, ih]

/-- A signal evicts the path's own templates and renews its token; nothing else. -/
theorem Wired.signal_eq (wired : site.Wired) (path : String) :
    (signal path site).2 = { site.evict path with bus := (site.bus.fire path).2 } := by
  obtain ⟨same, nobody⟩ := wired.fire_waiters path
  unfold LiveViews.signal Bus.signal settle
  dsimp only
  rw [run_evictors _ path _ same]
  cases waiters : (site.bus.fire path).1 with
  | nil => simp [evict_of_untracked (nobody waiters)]
  | cons waiter rest =>
      rw [List.map_cons, List.foldl_cons]
      show List.foldl perform (({ site with bus := (site.bus.fire path).2 } : Site).evict path) _ = _
      rw [evict_often, evict_withBus]

theorem holds_evict {path key : String} (held : (site.evict path).holds key = true) :
    key ∉ site.keysAt path ∧ site.holds key = true := by
  unfold holds at *
  rw [compiled?_evict] at held
  split at held
  · simp at held
  next absent => exact ⟨absent, held⟩

theorem normal_evict (site : Site) (path key : String) :
    (site.evict path).normal key = site.normal key := by
  rw [evict_eq]
  rfl

theorem Wired.evict (wired : site.Wired) (path : String) : (site.evict path).Wired := by
  have sameBus : (site.evict path).bus = site.bus := by rw [evict_eq]
  constructor
  · exact sameBus ▸ wired.sound
  · intro other key member
    rw [keysAt_evict] at member
    rw [normal_evict]
    split at member
    · simp at member
    · exact wired.spelled other key member
  · intro other entry tracked
    rw [tracked?_evict] at tracked
    rw [sameBus]
    split at tracked
    · cases tracked
    · exact wired.live other entry tracked
  · exact sameBus ▸ wired.waiters

theorem Wired.fired (wired : site.Wired) {path : String} (untracked : site.tracked? path = none) :
    ({ site with bus := (site.bus.fire path).2 } : Site).Wired := by
  refine ⟨wired.sound.fire path, wired.spelled, ?_, ?_⟩
  · intro other entry tracked
    have different : other ≠ path := by
      rintro rfl
      have known : site.tracked? other = some entry := tracked
      rw [untracked] at known
      cases known
    obtain ⟨slot, member, rfl, token, waits⟩ := wired.live other entry tracked
    refine ⟨slot, ?_, rfl, token, waits⟩
    rcases Bus.fire_cases wired.sound path with ⟨_, fired⟩ | ⟨_, _, fired⟩
    · simpa only [fired] using member
    · simpa only [fired] using Bus.mem_renewed_of_ne member different
  · intro slot member
    rcases Bus.fire_cases wired.sound path with ⟨_, fired⟩ | ⟨_, _, fired⟩
    · simp only [fired] at member
      exact wired.waiters slot member
    · simp only [fired] at member
      rcases Bus.mem_renewed member with ⟨old, _⟩ | rfl
      · exact wired.waiters slot old
      · simp

theorem Wired.signal (wired : site.Wired) (path : String) :
    (LiveViews.signal path site).2.Wired := by
  have untracked : (site.evict path).tracked? path = none := by
    rw [tracked?_evict, if_pos rfl]
  have fired := (wired.evict path).fired untracked
  have sameBus : (site.evict path).bus = site.bus := by rw [evict_eq]
  rw [sameBus] at fired
  rwa [wired.signal_eq path]

theorem Covered.evict (covered : site.Covered) (path : String) : (site.evict path).Covered := by
  intro key held
  obtain ⟨absent, before⟩ := holds_evict held
  have tracked := covered key before
  have other : site.normal key ≠ path := fun same => absent (same ▸ tracked)
  rw [normal_evict, keysAt_evict, if_neg other]
  exact tracked

theorem Indexed.signal (indexed : site.Indexed) (path : String) :
    (LiveViews.signal path site).2.Indexed := by
  refine ⟨indexed.wired.signal path, ?_, ?_⟩
  · rw [indexed.wired.signal_eq path]
    exact indexed.covered.evict path
  rw [indexed.wired.signal_eq path]
  intro slot member
  show slot.waiters =
    if ((site.evict path).tracked? slot.token.path).isSome then [evictor slot.token.path] else []
  rw [tracked?_evict]
  rcases Bus.fire_cases indexed.wired.sound path with ⟨absent, fired⟩ | ⟨_, _, fired⟩
  · simp only [fired] at member
    have other : slot.token.path ≠ path := fun same =>
      Bus.slot?_eq_none.mp absent (same ▸ List.mem_map_of_mem member)
    rw [if_neg other]
    exact indexed.single slot member
  · simp only [fired] at member
    rcases Bus.mem_renewed member with ⟨old, other⟩ | rfl
    · rw [if_neg other]
      exact indexed.single slot old
    · simp

theorem Wired.compiled?_signal (wired : site.Wired) (covered : site.Covered) (path key : String) :
    (LiveViews.signal path site).2.compiled? key =
      if site.normal key = path then none else site.compiled? key := by
  rw [wired.signal_eq]
  show (site.evict path).compiled? key = _
  rw [compiled?_evict]
  by_cases spelled : key ∈ site.keysAt path
  · rw [if_pos spelled, if_pos (wired.spelled path key spelled)]
  · rw [if_neg spelled]
    split
    next here =>
      cases known : site.compiled? key with
      | none => rfl
      | some compiled =>
          have held : site.holds key = true := by simp [holds, known]
          exact absurd (here ▸ covered key held) spelled
    next => rfl

theorem Wired.token (wired : site.Wired) (path : String) :
    ({ site with bus := (site.bus.token path).2 } : Site).Wired := by
  refine ⟨wired.sound.token path, wired.spelled, ?_, ?_⟩
  · intro other entry tracked
    obtain ⟨slot, member, known⟩ := wired.live other entry tracked
    exact ⟨slot, Bus.mem_token member, known⟩
  · intro slot member
    rcases Bus.of_mem_token member with old | ⟨rfl, _⟩
    · exact wired.waiters slot old
    · simp

theorem Indexed.token (indexed : site.Indexed) (path : String) :
    ({ site with bus := (site.bus.token path).2 } : Site).Indexed := by
  refine ⟨indexed.wired.token path, indexed.covered, ?_⟩
  intro slot member
  show slot.waiters =
    if (site.tracked? slot.token.path).isSome then [evictor slot.token.path] else []
  rcases site.bus.token_cases path with ⟨_, _, answer⟩ | ⟨absent, answer⟩
  · simp only [answer] at member
    exact indexed.single slot member
  · simp only [answer, List.mem_append, List.mem_singleton] at member
    rcases member with old | rfl
    · exact indexed.single slot old
    · cases tracked : site.tracked? path with
      | none => simp
      | some entry =>
          obtain ⟨slot, found, _⟩ := indexed.wired.slot?_of_tracked tracked
          rw [absent] at found
          cases found

section Same

variable {other : Site}

theorem tracked?_of_same (tracked : other.tracked = site.tracked) : other.tracked? = site.tracked? := by
  funext path
  simp only [tracked?, tracked]

theorem keysAt_of_same (tracked : other.tracked = site.tracked) : other.keysAt = site.keysAt := by
  funext path
  simp only [keysAt, tracked?_of_same tracked]

theorem Wired.of_same (wired : site.Wired) (bus : other.bus = site.bus)
    (tracked : other.tracked = site.tracked)
    (extension : other.settings.extension = site.settings.extension) : other.Wired := by
  constructor
  · exact bus ▸ wired.sound
  · rw [keysAt_of_same tracked, normal_of_same extension]
    exact wired.spelled
  · rw [tracked?_of_same tracked, bus]
    exact wired.live
  · exact bus ▸ wired.waiters

theorem Covered.of_same (covered : site.Covered) (tracked : other.tracked = site.tracked)
    (extension : other.settings.extension = site.settings.extension)
    (held : ∀ key, other.holds key = true → site.holds key = true) : other.Covered := by
  intro key kept
  rw [keysAt_of_same tracked, normal_of_same extension]
  exact covered key (held key kept)

theorem Indexed.of_same (indexed : site.Indexed) (bus : other.bus = site.bus)
    (tracked : other.tracked = site.tracked)
    (extension : other.settings.extension = site.settings.extension)
    (held : ∀ key, other.holds key = true → site.holds key = true) : other.Indexed := by
  refine ⟨indexed.wired.of_same bus tracked extension,
    indexed.covered.of_same tracked extension held, ?_⟩
  rw [tracked?_of_same tracked, bus]
  exact indexed.single

end Same

theorem mem_addKey {key other : String} {keys : List String} :
    other ∈ addKey key keys ↔ other = key ∨ other ∈ keys := by
  unfold addKey
  split
  next known =>
    constructor
    · exact Or.inr
    · rintro (rfl | member)
      · exact List.contains_iff_mem.mp known
      · exact member
  next => simp [or_comm]

def entered (site : Site) (key path : String) (token : Token) : Site :=
  { site with
    tracked := (path, ⟨addKey key (site.keysAt path), some token⟩) ::
      site.tracked.filter fun item => item.1 ≠ path }

def tracking (site : Site) (key path : String) (token : Token) : Site :=
  { site.entered key path token with
    bus := if (site.tracked? path).isSome then site.bus
      else site.bus.wait path (evictor path) }

theorem Wired.track_eq (wired : site.Wired) (key : String) {token : Token}
    (live : site.bus.Live token) :
    (track key token.path token site).2 = site.tracking key token.path token := by
  have unchanged := (Bus.hasChanged_eq_false wired.sound).mpr live
  unfold Site.tracking entered keysAt
  cases tracked : site.tracked? token.path with
  | none =>
      simp [track, tracked, register, Bus.register, unchanged, settle, evictor]
  | some entry =>
      obtain ⟨slot, member, same, known, _⟩ := wired.live token.path entry tracked
      obtain ⟨liveSlot, liveMem, rfl⟩ := live
      obtain rfl := wired.sound.eq_of_path member liveMem same
      simp [track, tracked, known]

theorem tracked?_entered (site : Site) (key path other : String) (token : Token) :
    (site.entered key path token).tracked? other =
      if other = path then some ⟨addKey key (site.keysAt path), some token⟩
      else site.tracked? other := by
  unfold tracked? entered
  rw [List.find?_cons]
  by_cases here : other = path
  · simp [here]
  · have apart : ¬path = other := fun same => here same.symm
    simp only [apart, decide_false, find?_filter_ne, here, if_false]

theorem keysAt_entered (site : Site) (key path other : String) (token : Token) :
    (site.entered key path token).keysAt other =
      if other = path then addKey key (site.keysAt path) else site.keysAt other := by
  unfold keysAt
  rw [tracked?_entered]
  split <;> rfl

theorem tracked?_tracking (site : Site) (key path other : String) (token : Token) :
    (site.tracking key path token).tracked? other =
      if other = path then some ⟨addKey key (site.keysAt path), some token⟩
      else site.tracked? other :=
  tracked?_entered site key path other token

theorem keysAt_tracking (site : Site) (key path other : String) (token : Token) :
    (site.tracking key path token).keysAt other =
      if other = path then addKey key (site.keysAt path) else site.keysAt other :=
  keysAt_entered site key path other token

/-- What tracking does to a slot: the first to be tracked for a path lets its eviction wait. -/
def rewired (site : Site) (path : String) (slot : Slot SiteEffect) : Slot SiteEffect :=
  if (site.tracked? path).isSome then slot else slot.joined path (evictor path)

@[simp] theorem rewired_token (site : Site) (path : String) (slot : Slot SiteEffect) :
    (site.rewired path slot).token = slot.token := by
  unfold rewired
  split
  · rfl
  · exact slot.joined_token path _

theorem Wired.tracking_slots (wired : site.Wired) (key : String) {token : Token}
    (live : site.bus.Live token) : (site.tracking key token.path token).bus.slots =
      site.bus.slots.map (site.rewired token.path) := by
  unfold Site.tracking rewired
  dsimp only
  split
  · rw [List.map_id'']
    exact fun _ => rfl
  · exact Bus.slots_wait_of_live wired.sound live _

theorem Wired.mem_rewired (wired : site.Wired) {slot : Slot SiteEffect}
    (member : slot ∈ site.bus.slots) :
    evictor slot.token.path ∈ (site.rewired slot.token.path slot).waiters := by
  unfold rewired
  split
  next tracked =>
    obtain ⟨entry, found⟩ := Option.isSome_iff_exists.mp tracked
    obtain ⟨other, otherMem, same, _, waits⟩ := wired.live slot.token.path entry found
    obtain rfl := wired.sound.eq_of_path otherMem member same
    exact waits
  next => simp [Slot.joined]

theorem of_mem_rewired {path : String} {slot : Slot SiteEffect} {waiter : Callback SiteEffect}
    (waits : waiter ∈ (site.rewired path slot).waiters) :
    waiter ∈ slot.waiters ∨ (slot.token.path = path ∧ waiter = evictor path) := by
  unfold rewired at waits
  split at waits
  · exact Or.inl waits
  · unfold Slot.joined at waits
    split at waits
    next here =>
      rcases List.mem_append.mp waits with old | added
      · exact Or.inl old
      · exact Or.inr ⟨here, List.mem_singleton.mp added⟩
    next => exact Or.inl waits

theorem Wired.tracking (wired : site.Wired) {key : String} {token : Token}
    (live : site.bus.Live token) (here : site.normal key = token.path) :
    (site.tracking key token.path token).Wired := by
  have slots := wired.tracking_slots key live
  constructor
  · unfold Site.tracking
    dsimp only
    split
    · exact wired.sound
    · exact wired.sound.wait _ _
  · intro path other member
    show site.normal other = path
    rw [keysAt_tracking] at member
    split at member
    next same =>
      rcases mem_addKey.mp member with rfl | known
      · rw [here, same]
      · rw [same]
        exact wired.spelled _ other known
    next => exact wired.spelled path other member
  · intro path entry tracked
    rw [tracked?_tracking] at tracked
    rw [slots]
    split at tracked
    next same =>
      obtain ⟨slot, member, rfl⟩ := live
      refine ⟨_, List.mem_map_of_mem member, ?_, ?_, ?_⟩
      · rw [rewired_token, same]
      · rw [rewired_token, ← Option.some.inj tracked]
      · rw [same]
        exact wired.mem_rewired member
    next other =>
      obtain ⟨slot, member, rfl, known, waits⟩ := wired.live path entry tracked
      refine ⟨_, List.mem_map_of_mem member, by rw [rewired_token], by rw [rewired_token, known], ?_⟩
      unfold rewired
      split
      · exact waits
      · rwa [Slot.joined, if_neg other]
  · rw [slots]
    intro slot member waiter waits
    obtain ⟨old, oldMem, rfl⟩ := List.mem_map.mp member
    rw [rewired_token]
    rcases of_mem_rewired waits with known | ⟨same, added⟩
    · exact wired.waiters old oldMem waiter known
    · rw [same, added]

theorem mem_keysAt_tracking {key path other known : String} {token : Token}
    (member : known ∈ site.keysAt other) : known ∈ (site.tracking key path token).keysAt other := by
  rw [keysAt_tracking]
  split
  next same => exact mem_addKey.mpr (Or.inr (same ▸ member))
  next => exact member

theorem Indexed.tracking (indexed : site.Indexed) {key : String} {token : Token}
    (live : site.bus.Live token) (here : site.normal key = token.path) :
    (site.tracking key token.path token).Indexed := by
  refine ⟨indexed.wired.tracking live here, ?_, ?_⟩
  · intro other held
    exact mem_keysAt_tracking (indexed.covered other held)
  rw [indexed.wired.tracking_slots key live]
  intro slot member
  obtain ⟨old, oldMem, rfl⟩ := List.mem_map.mp member
  have before := indexed.single old oldMem
  rw [rewired_token, tracked?_tracking]
  unfold rewired Slot.joined
  by_cases same : old.token.path = token.path
  · rw [same] at before
    cases tracked : site.tracked? token.path with
    | none =>
        rw [tracked] at before
        simp [same, before]
    | some entry =>
        rw [tracked] at before
        simp [same, before]
  · simp only [same, if_false, ite_self]
    exact before

/-- To track a key on a token that has fired already evicts the path, and the key with it. -/
theorem Wired.track_late (wired : site.Wired) (key : String) {token : Token}
    (late : ¬site.bus.Live token) : ∃ log, (track key token.path token site).2 =
      { (site.evict token.path).invalidate key with log := log } := by
  have changed := (Bus.hasChanged_eq_true wired.sound).mpr late
  have other : ((site.tracked? token.path).getD ⟨[], none⟩).token ≠ some token := by
    cases tracked : site.tracked? token.path with
    | none => simp
    | some entry =>
        obtain ⟨slot, member, _, known, _⟩ := wired.live token.path entry tracked
        intro same
        have equal : slot.token = token := by simpa [known] using same
        exact late ⟨slot, member, equal⟩
  have keys : ((site.tracked? token.path).getD ⟨[], none⟩).keys = site.keysAt token.path := by
    unfold keysAt
    cases site.tracked? token.path <;> rfl
  have answer : (track key token.path token site).2 =
      (site.entered key token.path token).evict token.path := by
    simp [track, other, keys, register, Bus.register, changed, settle, run, perform, entered]
  have spelled : ∀ spelling, spelling ∉ addKey key (site.keysAt token.path) ↔
      spelling ≠ key ∧ spelling ∉ site.keysAt token.path := by
    intro spelling
    rw [mem_addKey, not_or]
  refine ⟨(site.entered key token.path token).evictLog token.path, ?_⟩
  rw [answer, evict_eq, evict_eq, keysAt_entered, if_pos rfl]
  unfold invalidate entered
  simp only [spelled, List.filter_filter, Bool.decide_and]
  simp

/-- What reads see is as it was, and nothing is kept in addition. -/
structure Notified (base site : Site) : Prop where
  fresh : site.fresh = base.fresh
  rival : site.rival = base.rival
  kept : ∀ entry ∈ site.compiled, entry ∈ base.compiled

theorem Notified.refl (site : Site) : site.Notified site :=
  ⟨rfl, rfl, fun _ member => member⟩

theorem Notified.trans {base later : Site} (first : base.Notified site) (second : site.Notified later) :
    base.Notified later :=
  ⟨second.fresh.trans first.fresh, second.rival.trans first.rival,
    fun entry member => first.kept entry (second.kept entry member)⟩

theorem notified_evict (site : Site) (path : String) : site.Notified (site.evict path) := by
  rw [evict_eq]
  exact ⟨rfl, rfl, fun _ member => List.mem_of_mem_filter member⟩

theorem notified_settle (site : Site) (answer : Answer SiteEffect) :
    site.Notified (site.settle answer) := by
  have performed : ∀ (effects : List SiteEffect) (other : Site),
      other.Notified (effects.foldl perform other) := by
    intro effects
    induction effects with
    | nil => exact Notified.refl
    | cons effect rest ih =>
        intro other
        have once : other.Notified (other.perform effect) := by
          cases effect with
          | evict path => exact other.notified_evict path
          | tell label => exact ⟨rfl, rfl, fun _ member => member⟩
        exact once.trans (ih _)
  have begun : site.Notified { site with bus := answer.bus } := ⟨rfl, rfl, fun _ member => member⟩
  exact begun.trans (performed answer.effects _)

theorem notified_signal (site : Site) (path : String) :
    site.Notified (LiveViews.signal path site).2 :=
  site.notified_settle _

theorem notified_register (site : Site) (token : Token) (callback : Callback SiteEffect) :
    site.Notified (LiveViews.register token callback site).2 :=
  site.notified_settle _

theorem notified_tokenOf (site : Site) (path : String) : site.Notified (tokenOf path site).2 :=
  ⟨rfl, rfl, fun _ member => member⟩

theorem notified_track (site : Site) (key path : String) (token : Token) :
    site.Notified (track key path token site).2 := by
  have entered : ∀ tracked, site.Notified { site with tracked := tracked } :=
    fun _ => ⟨rfl, rfl, fun _ member => member⟩
  by_cases known : ((site.tracked? path).getD ⟨[], none⟩).token = some token
  · simp only [track, SiteM.bind_apply, SiteM.get_apply, SiteM.modify_apply, known, ne_eq,
      not_true_eq_false, reduceIte]
    exact entered _
  · simp only [track, SiteM.bind_apply, SiteM.get_apply, SiteM.modify_apply, known, ne_eq,
      not_false_eq_true, reduceIte]
    exact (entered _).trans (notified_register _ token _)

end Site

end LiveViews
