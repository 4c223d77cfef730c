import LiveViews.Proofs.Signal.Accounting
import LiveViews.Proofs.Site.Operations

/-!
Exact eviction: whatever a site was used for, a signal drops the templates under the spellings of its
path and no others (`evicts_exactly`).
-/

namespace LiveViews

open LiveViews.Store LiveViews.Signal

namespace Site

/-- A signal of any path drops exactly what was compiled for it. -/
structure EvictsExactly (site : Site) : Prop where
  tracked : ∀ key, site.holds key = true → key ∈ trackedKeys site (site.normal key)
  /-- The eviction of a tracked path waits on the live token of that path, alone. -/
  waiting : ∀ path, (site.tracked? path).isSome = true →
    ∃ slot, site.bus.slot? path = some slot ∧ slot.waiters = [evictor path]
  once : ∀ path, site.bus.waiting.count (.evict path) =
    if (site.tracked? path).isSome then 1 else 0
  dropped : ∀ path key, (signal path site).2.compiled? key =
    if site.normal key = path then none else site.compiled? key
  forgotten : ∀ path, trackedKeys (signal path site).2 path = []
  others : ∀ path other, other ≠ path → (signal path site).2.tracked? other = site.tracked? other

variable {site : Site}

theorem mem_trackedKeys {path key : String} :
    key ∈ trackedKeys site path ↔ key ∈ site.keysAt path := by
  unfold trackedKeys keysAt
  exact List.mem_mergeSort

theorem Indexed.waiting_eq (indexed : site.Indexed) : site.bus.waiting =
    ((pathsOf site.bus.slots).filter fun path => (site.tracked? path).isSome).map .evict := by
  have waiters := indexed.single
  unfold Bus.waiting pathsOf
  revert waiters
  generalize site.bus.slots = slots
  intro waiters
  induction slots with
  | nil => rfl
  | cons slot rest ih =>
      have later := ih fun other member => waiters other (List.mem_cons_of_mem _ member)
      rw [List.flatMap_cons, later, waiters slot List.mem_cons_self, List.map_cons, List.filter_cons]
      split <;> rfl

theorem Indexed.waiting_count (indexed : site.Indexed) (path : String) :
    site.bus.waiting.count (.evict path) = if (site.tracked? path).isSome then 1 else 0 := by
  have injective : Function.Injective SiteEffect.evict := fun _ _ same => SiteEffect.evict.inj same
  have unique := (indexed.wired.sound.paths.filter fun path => (site.tracked? path).isSome).map injective
  rw [indexed.waiting_eq]
  split
  next tracked =>
    obtain ⟨entry, found⟩ := Option.isSome_iff_exists.mp tracked
    obtain ⟨slot, member, rfl, _, _⟩ := indexed.wired.live path entry found
    refine List.count_eq_one_of_mem unique (List.mem_map_of_mem (List.mem_filter.mpr ⟨?_, tracked⟩))
    exact List.mem_map_of_mem member
  next untracked =>
    refine List.count_eq_zero.mpr fun member => ?_
    obtain ⟨other, known, same⟩ := List.mem_map.mp member
    cases same
    exact untracked (List.mem_filter.mp known).2

theorem Indexed.evictsExactly (indexed : site.Indexed) : site.EvictsExactly := by
  constructor
  · intro key held
    exact mem_trackedKeys.mpr (indexed.covered key held)
  · intro path tracked
    obtain ⟨entry, found⟩ := Option.isSome_iff_exists.mp tracked
    obtain ⟨slot, here, _, _⟩ := indexed.wired.slot?_of_tracked found
    obtain ⟨member, rfl⟩ := Bus.mem_of_slot? here
    refine ⟨slot, here, ?_⟩
    rw [indexed.single slot member, if_pos tracked]
  · exact indexed.waiting_count
  · exact indexed.wired.compiled?_signal indexed.covered
  · intro path
    have forgotten : (LiveViews.signal path site).2.keysAt path = [] := by
      rw [indexed.wired.signal_eq]
      show (site.evict path).keysAt path = []
      rw [keysAt_evict, if_pos rfl]
    unfold keysAt at forgotten
    unfold trackedKeys
    rw [forgotten]
    exact List.mergeSort_nil
  · intro path other different
    rw [indexed.wired.signal_eq]
    show (site.evict path).tracked? other = _
    rw [tracked?_evict, if_neg different]

end Site

/-- After any operations on a site that was just opened, one signal evicts every spelling of its path
and nothing else. -/
theorem evicts_exactly (site : Site) (opened : site.Opened) (operations : List SiteOperation) :
    (site.operateAll operations).EvictsExactly :=
  (opened.steady.operateAll operations).indexed.evictsExactly

def visits : List SiteOperation :=
  [.writePage ⟨"home", "Hello", "/Home/Index"⟩, .compile "/Home/Index.liquid",
    .render 8 "~/home/index" .nil [] .stored {}, .signal "/other",
    .writePage ⟨"home", "Bye", "/home/INDEX.liquid"⟩, .resolve "/home/index"]

theorem evicts_exactly_visits :
    Site.Opened {} ∧ (Site.operateAll {} visits).EvictsExactly :=
  ⟨⟨rfl, rfl, rfl, rfl⟩, evicts_exactly {} ⟨rfl, rfl, rfl, rfl⟩ visits⟩

example : (Site.operateAll {} (visits.take 4)).keysAt "/home/index" =
    ["/Home/Index.liquid", "~/home/index"] := by
  decide +kernel

end LiveViews
