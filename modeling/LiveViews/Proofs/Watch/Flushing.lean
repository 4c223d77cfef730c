import LiveViews.Program.Serve
import LiveViews.Proofs.File.Inverse
import LiveViews.Proofs.Signal.Operations
import LiveViews.Proofs.Site.FileEdits

/-!
The watcher at work: events tell of files, and now and then what has gathered is flushed. A flush
signals the views of the files that were told of since the flush before, each once and in order, and
no other path (`flush_signals_told`).
-/

namespace LiveViews.Watch

open LiveViews.Text LiveViews.File LiveViews.Signal

inductive WatchStep where
  | event (kind : EventKind) (now : Int) (files : List (List Char))
  | flush

structure Watcher where
  batch : Batch := {}
  site : Site

namespace Watcher

def flush (root : String) (watcher : Watcher) : List String × Watcher :=
  let (files, batch) := watcher.batch.take
  let (paths, site) := handleChanges root files watcher.site
  (paths, ⟨batch, site⟩)

def step (root : String) (watcher : Watcher) : WatchStep → Watcher
  | .event kind now files =>
    if kind.isRelevant then { watcher with batch := watcher.batch.add now files } else watcher
  | .flush => (watcher.flush root).2

def run (root : String) (watcher : Watcher) (steps : List WatchStep) : Watcher :=
  steps.foldl (step root) watcher

theorem run_concat (root : String) (watcher : Watcher) (steps : List WatchStep) (last : WatchStep) :
    watcher.run root (steps ++ [last]) = (watcher.run root steps).step root last := by
  unfold run
  rw [List.foldl_append, List.foldl_cons, List.foldl_nil]

end Watcher

section Server

variable (server : Program.Server) (now : Int)

def watcherOf : Watcher :=
  ⟨server.batch, server.site⟩

theorem watcherOf_notice (kind : EventKind) (files : List (List Char)) :
    watcherOf (server.notice kind now files) =
      if server.watching then (watcherOf server).step server.root (.event kind now files)
      else watcherOf server := by
  unfold Program.Server.notice Watcher.step
  by_cases watching : server.watching = true
  · by_cases relevant : kind.isRelevant = true
    · simp [watching, relevant, watcherOf]
    · simp [watching, relevant]
  · simp [watching]

theorem watcherOf_settle (time : String) : watcherOf (server.settle now time).2 =
    if server.batch.isReady now then (watcherOf server).step server.root .flush
    else watcherOf server := by
  unfold Program.Server.settle
  split
  · dsimp only [Watcher.step, Watcher.flush, watcherOf, Batch.take]
    generalize handleChanges server.root server.batch.pending server.site = answer
    obtain ⟨paths, site⟩ := answer
    dsimp only
    split <;> rfl
  · rfl

end Server

theorem isReady_timeout {batch : Batch} {last : Int} (gathered : batch.pending ≠ [])
    (event : batch.lastEvent = some last) : batch.isReady (last + batch.timeout) = true := by
  have waits : batch.timeout = settleTime := by simp [Batch.timeout, gathered]
  have passed : last + (settleTime : Int) - last ≥ settleTime := by omega
  simp only [Batch.isReady, waits, event, Option.any_some, Bool.and_eq_true, Bool.not_eq_true',
    List.isEmpty_eq_false_iff, decide_eq_true_eq]
  exact ⟨gathered, passed⟩

/-! ### What has gathered -/

/-- An event has told of the file since the last flush. -/
def ToldOf (steps : List WatchStep) (file : List Char) : Prop :=
  ∃ before kind now files after, steps = before ++ .event kind now files :: after ∧
    kind.isRelevant = true ∧ file ∈ files ∧ .flush ∉ after

theorem not_toldOf_nil {file : List Char} : ¬ToldOf [] file := by
  rintro ⟨before, kind, now, files, after, split, _⟩
  cases before <;> cases split

theorem toldOf_concat {steps : List WatchStep} {last : WatchStep} {file : List Char} :
    ToldOf (steps ++ [last]) file ↔ ToldOf steps file ∧ last ≠ .flush ∨
      ∃ kind now files, last = .event kind now files ∧ kind.isRelevant = true ∧ file ∈ files := by
  constructor
  · rintro ⟨before, kind, now, files, after, split, relevant, member, unflushed⟩
    rcases List.eq_nil_or_concat' after with rfl | ⟨early, other, rfl⟩
    · obtain ⟨_, same⟩ := List.append_inj' split rfl
      exact Or.inr ⟨kind, now, files, (List.cons.inj same).1, relevant, member⟩
    · rw [← List.cons_append, ← List.append_assoc] at split
      obtain ⟨rfl, same⟩ := List.append_inj' split rfl
      rw [List.mem_append, not_or, ← same, List.mem_singleton] at unflushed
      exact Or.inl ⟨⟨before, kind, now, files, early, rfl, relevant, member, unflushed.1⟩,
        Ne.symm unflushed.2⟩
  · rintro (⟨⟨before, kind, now, files, after, rfl, relevant, member, unflushed⟩, other⟩ |
      ⟨kind, now, files, rfl, relevant, member⟩)
    · exact ⟨before, kind, now, files, after ++ [last], by simp, relevant, member,
        by simp [unflushed, other.symm]⟩
    · exact ⟨steps, kind, now, files, [], rfl, relevant, member, List.not_mem_nil⟩

structure Gathered (told : List Char → Prop) (pending : List (List Char)) : Prop where
  sound : ∀ file ∈ pending, told file ∧ isTemporary file = false
  complete : ∀ file, told file → isTemporary file = false →
    ∃ other ∈ pending, parts other = parts file

namespace Gathered

variable {told : List Char → Prop} {pending : List (List Char)}

theorem addPath (gathered : Gathered told pending) (path : List Char) :
    Gathered (fun file => told file ∨ file = path) (Batch.addPath pending path) := by
  unfold Batch.addPath
  split
  next skipped =>
    rw [Bool.or_eq_true, List.any_eq_true] at skipped
    refine ⟨fun file member => ?_, ?_⟩
    · obtain ⟨known, lasting⟩ := gathered.sound file member
      exact ⟨Or.inl known, lasting⟩
    · rintro file (known | rfl) lasting
      · exact gathered.complete file known lasting
      · rcases skipped with temporary | ⟨other, member, same⟩
        · rw [lasting] at temporary
          cases temporary
        · exact ⟨other, member, of_decide_eq_true same⟩
  next added =>
    rw [Bool.or_eq_true, not_or, Bool.not_eq_true] at added
    refine ⟨fun file member => ?_, ?_⟩
    · rcases List.mem_append.mp member with early | late
      · obtain ⟨known, lasting⟩ := gathered.sound file early
        exact ⟨Or.inl known, lasting⟩
      · rw [List.mem_singleton.mp late]
        exact ⟨Or.inr rfl, added.1⟩
    · rintro file (known | rfl) lasting
      · obtain ⟨other, member, same⟩ := gathered.complete file known lasting
        exact ⟨other, List.mem_append_left _ member, same⟩
      · exact ⟨file, by simp, rfl⟩

theorem addPaths (gathered : Gathered told pending) (files : List (List Char)) :
    Gathered (fun file => told file ∨ file ∈ files) (files.foldl Batch.addPath pending) := by
  induction files generalizing told pending with
  | nil => simpa using gathered
  | cons path rest ih =>
      have later := ih (gathered.addPath path)
      simpa only [List.foldl_cons, List.mem_cons, or_assoc] using later

theorem step {steps : List WatchStep} {watcher : Watcher}
    (gathered : Gathered (ToldOf steps) watcher.batch.pending) (root : String) (last : WatchStep) :
    Gathered (ToldOf (steps ++ [last])) (watcher.step root last).batch.pending := by
  cases last with
  | event kind now files =>
      have same : ToldOf (steps ++ [.event kind now files]) =
          fun file => ToldOf steps file ∨ kind.isRelevant = true ∧ file ∈ files := by
        funext file
        simp [toldOf_concat]
      rw [same, Watcher.step]
      split
      next relevant =>
        simp only [relevant, true_and]
        exact gathered.addPaths files
      next idle =>
        simp only [idle, Bool.false_eq_true, false_and, or_false]
        exact gathered
  | flush =>
      refine ⟨fun file member => (List.not_mem_nil member).elim, fun file known => ?_⟩
      simp [toldOf_concat] at known

theorem run (root : String) (start : Site) (steps : List WatchStep) :
    Gathered (ToldOf steps) (Watcher.run root ⟨{}, start⟩ steps).batch.pending := by
  induction steps using List.reverseRecOn with
  | nil =>
      exact ⟨fun file member => (List.not_mem_nil member).elim,
        fun file known => (not_toldOf_nil known).elim⟩
  | append_singleton steps last ih =>
      rw [Watcher.run_concat]
      exact ih.step root last

end Gathered

/-! ### The views of files -/

/-- The file is at or below the root and carries the extension of the views; `path` is the normal path
of its view. -/
def ViewAt (root extension : String) (file : List Char) (path : String) : Prop :=
  ∃ below, parts file = parts root.toList ++ below ∧
    let view := '/' :: joinWith ['/'] (below.map Part.text)
    View.hasExtension extension.toList view = true ∧
      path = View.normalPath extension (String.ofList view)

section

variable {root extension path : String} {file other : List Char}

theorem changedView?_eq_some :
    (changedView? root.toList extension.toList file).map String.ofList = some path ↔
      ViewAt root extension file path := by
  unfold changedView? virtualPath? ViewAt
  simp only [Option.map_eq_some_iff, Option.filter_eq_some_iff, partsBelow?_eq_some]
  constructor
  · rintro ⟨_, ⟨_, ⟨⟨below, split, rfl⟩, carries⟩, rfl⟩, rfl⟩
    exact ⟨below, split, carries, by rw [View.normalPath, String.toList_ofList]⟩
  · rintro ⟨below, split, carries, rfl⟩
    exact ⟨_, ⟨_, ⟨⟨below, split, rfl⟩, carries⟩, rfl⟩, by rw [View.normalPath, String.toList_ofList]⟩

theorem ViewAt.of_parts (viewed : ViewAt root extension file path) (same : parts other = parts file) :
    ViewAt root extension other path := by
  obtain ⟨below, split, rest⟩ := viewed
  exact ⟨below, same.trans split, rest⟩

theorem mem_changedViews_iff {files : List (List Char)} :
    path ∈ changedViews root extension files ↔ ∃ file ∈ files, ViewAt root extension file path := by
  unfold changedViews
  rw [List.mem_mergeSort, List.mem_eraseDups, List.map_filterMap, List.mem_filterMap]
  simp only [changedView?_eq_some]

end

theorem nodup_eraseDups {α : Type} [DecidableEq α] : ∀ items : List α, items.eraseDups.Nodup
  | [] => List.nodup_nil
  | first :: rest => by
      rw [List.eraseDups_cons, List.nodup_cons]
      exact ⟨by simp, nodup_eraseDups _⟩
  termination_by items => items.length
  decreasing_by
    exact Nat.lt_succ_of_le (List.length_filter_le _ _)

theorem changedViews_sorted (root extension : String) (files : List (List Char)) :
    (changedViews root extension files).Pairwise (· < ·) := by
  unfold changedViews
  dsimp only
  generalize (files.filterMap _).map String.ofList = paths
  let precedes (left right : String) : Bool := left ≤ right
  have transitive : ∀ first second third, precedes first second → precedes second third →
      precedes first third := by
    intro first second third
    simp only [precedes, decide_eq_true_eq]
    exact String.le_trans
  have total : ∀ first second, (precedes first second || precedes second first) = true := by
    simpa [precedes] using String.le_total
  have ordered := List.pairwise_mergeSort transitive total paths.eraseDups
  have single : (paths.eraseDups.mergeSort precedes).Nodup :=
    (List.mergeSort_perm _ precedes).nodup_iff.mpr (nodup_eraseDups paths)
  refine ordered.imp₂ (fun first second before apart => ?_) single
  exact String.not_le.mp fun after => apart (String.le_antisymm (of_decide_eq_true before) after)

/-! ### What a flush signals -/

theorem bus_settle (site : Site) (answer : Answer SiteEffect) :
    (site.settle answer).bus = answer.bus := by
  have performed : ∀ (effects : List SiteEffect) (other : Site),
      (effects.foldl Site.perform other).bus = other.bus := by
    intro effects
    induction effects with
    | nil => exact fun other => rfl
    | cons effect rest ih =>
        intro other
        rw [List.foldl_cons, ih]
        cases effect with
        | evict path => rw [Site.perform, Site.evict_eq]
        | tell label => rfl
  exact performed answer.effects _

theorem bus_signalChange (path : String) (site : Site) :
    (signalChange path site).2.bus = (site.bus.signal path).bus := by
  rw [site.signalChange_echoes path]
  exact bus_settle site (site.bus.signal path)

theorem bus_signalChanges (paths : List String) (site : Site) :
    (paths.forM signalChange site).2.bus = (site.bus.performAll (paths.map .signal)).1 := by
  induction paths generalizing site with
  | nil => rfl
  | cons path rest ih =>
      show (rest.forM signalChange (signalChange path site).2).2.bus = _
      rw [ih, bus_signalChange]
      rfl

theorem settings_run (root : String) (start : Site) (steps : List WatchStep) :
    (Watcher.run root ⟨{}, start⟩ steps).site.settings = start.settings := by
  induction steps using List.reverseRecOn with
  | nil => rfl
  | append_singleton steps last ih =>
      rw [Watcher.run_concat, ← ih]
      cases last with
      | event kind now files =>
          rw [Watcher.step]
          split <;> rfl
      | flush => exact Site.settings_of_fresh (Site.notified_handleChanges _ root _).fresh

/-- However files are told of and flushed, a flush signals the views of the lasting files that were
told of since the last one: all of them, each once, in order, and nothing else. -/
theorem flush_signals_told (root : String) (start : Site) (steps : List WatchStep) :
    let watcher := Watcher.run root ⟨{}, start⟩ steps
    let paths := (watcher.flush root).1
    let after := (watcher.flush root).2
    paths.Pairwise (· < ·) ∧
    (∀ path, path ∈ paths ↔ ∃ file, ToldOf steps file ∧ isTemporary file = false ∧
      ViewAt root start.settings.extension file path) ∧
    after.site.bus = (watcher.site.bus.performAll (paths.map .signal)).1 ∧
    after.batch.pending = [] := by
  have gathered := Gathered.run root start steps
  have settings := settings_run root start steps
  generalize Watcher.run root ⟨{}, start⟩ steps = watcher at gathered settings
  intro _ paths after
  have signalled : paths = changedViews root start.settings.extension watcher.batch.pending := by
    rw [← settings]
    rfl
  refine ⟨?_, fun path => ?_, ?_, rfl⟩
  · rw [signalled]
    exact changedViews_sorted _ _ _
  · rw [signalled, mem_changedViews_iff]
    constructor
    · rintro ⟨file, member, viewed⟩
      obtain ⟨known, lasting⟩ := gathered.sound file member
      exact ⟨file, known, lasting, viewed⟩
    · rintro ⟨file, known, lasting, viewed⟩
      obtain ⟨other, member, same⟩ := gathered.complete file known lasting
      exact ⟨other, member, viewed.of_parts same⟩
  · exact bus_signalChanges paths watcher.site

end LiveViews.Watch
