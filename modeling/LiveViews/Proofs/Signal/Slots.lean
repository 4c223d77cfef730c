import LiveViews.Signal.Bus
import Mathlib.Data.List.Nodup

/-!
What the operations of a bus do to its slots. In a sound bus each path has one live token, and a token
is told from all others by its id.
-/

namespace LiveViews.Signal

variable {Effect : Type}

def Callback.effect : Callback Effect → Effect
  | .mk effect _ => effect

def Slot.joined (path : String) (callback : Callback Effect) (slot : Slot Effect) : Slot Effect :=
  if slot.token.path = path then { slot with waiters := slot.waiters ++ [callback] } else slot

def Slot.renewed (token : Token) (slot : Slot Effect) : Slot Effect :=
  if slot.token.path = token.path then ⟨token, []⟩ else slot

@[simp] theorem Slot.joined_token (path : String) (callback : Callback Effect)
    (slot : Slot Effect) : (slot.joined path callback).token = slot.token := by
  unfold Slot.joined
  split <;> rfl

theorem Slot.renewed_path (token : Token) (slot : Slot Effect) :
    (slot.renewed token).token.path = slot.token.path := by
  unfold Slot.renewed
  split
  next same => exact same.symm
  next => rfl

def pathsOf (slots : List (Slot Effect)) : List String :=
  slots.map fun slot => slot.token.path

theorem addWaiter_of_notMem (path : String) (callback : Callback Effect)
    (slots : List (Slot Effect)) (absent : path ∉ pathsOf slots) :
    slots.map (Slot.joined path callback) = slots := by
  induction slots with
  | nil => rfl
  | cons slot rest ih =>
      simp only [pathsOf, List.map_cons, List.mem_cons, not_or] at absent
      rw [List.map_cons, ih absent.2, Slot.joined, if_neg (Ne.symm absent.1)]

theorem addWaiter_eq_map (path : String) (callback : Callback Effect)
    (slots : List (Slot Effect)) (unique : (pathsOf slots).Nodup) :
    addWaiter path callback slots = slots.map (Slot.joined path callback) := by
  induction slots with
  | nil => rfl
  | cons slot rest ih =>
      simp only [pathsOf, List.map_cons, List.nodup_cons] at unique
      by_cases same : slot.token.path = path
      · rw [addWaiter, if_pos same, List.map_cons, Slot.joined, if_pos same,
          addWaiter_of_notMem path callback rest (same ▸ unique.1)]
      · rw [addWaiter, if_neg same, List.map_cons, Slot.joined, if_neg same, ih unique.2]

theorem renewSlot_of_notMem (token : Token) (slots : List (Slot Effect))
    (absent : token.path ∉ pathsOf slots) : slots.map (Slot.renewed token) = slots := by
  induction slots with
  | nil => rfl
  | cons slot rest ih =>
      simp only [pathsOf, List.map_cons, List.mem_cons, not_or] at absent
      rw [List.map_cons, ih absent.2, Slot.renewed, if_neg (Ne.symm absent.1)]

theorem renewSlot_eq_map (token : Token) (slots : List (Slot Effect))
    (unique : (pathsOf slots).Nodup) :
    renewSlot token slots = slots.map (Slot.renewed token) := by
  induction slots with
  | nil => rfl
  | cons slot rest ih =>
      simp only [pathsOf, List.map_cons, List.nodup_cons] at unique
      by_cases same : slot.token.path = token.path
      · rw [renewSlot, if_pos same, List.map_cons, Slot.renewed, if_pos same,
          renewSlot_of_notMem token rest (same ▸ unique.1)]
      · rw [renewSlot, if_neg same, List.map_cons, Slot.renewed, if_neg same, ih unique.2]

namespace Bus

structure Sound (bus : Bus Effect) : Prop where
  paths : (pathsOf bus.slots).Nodup
  ids : ∀ first ∈ bus.slots, ∀ second ∈ bus.slots,
    first.token.id = second.token.id → first.token = second.token
  made : ∀ slot ∈ bus.slots, slot.token.id < bus.nextId

def Live (bus : Bus Effect) (token : Token) : Prop :=
  ∃ slot ∈ bus.slots, slot.token = token

def Waits (bus : Bus Effect) (label : Effect) (token : Token) : Prop :=
  ∃ slot ∈ bus.slots, slot.token = token ∧ ∃ callback ∈ slot.waiters, callback.effect = label

theorem sound_of_slots_nil {bus : Bus Effect} (empty : bus.slots = []) : bus.Sound := by
  constructor <;> simp [empty, pathsOf]

theorem mem_of_slot? {bus : Bus Effect} {path : String} {slot : Slot Effect}
    (found : bus.slot? path = some slot) : slot ∈ bus.slots ∧ slot.token.path = path := by
  constructor
  · exact List.mem_of_find?_eq_some found
  · simpa using List.find?_some found

theorem slot?_eq_none {bus : Bus Effect} {path : String} :
    bus.slot? path = none ↔ path ∉ pathsOf bus.slots := by
  simp [slot?, pathsOf]

theorem Sound.eq_of_path {bus : Bus Effect} (sound : bus.Sound) {first second : Slot Effect}
    (firstMem : first ∈ bus.slots) (secondMem : second ∈ bus.slots)
    (same : first.token.path = second.token.path) : first = second :=
  List.inj_on_of_nodup_map sound.paths firstMem secondMem same

theorem Sound.slot?_eq {bus : Bus Effect} (sound : bus.Sound) {slot : Slot Effect}
    (member : slot ∈ bus.slots) : bus.slot? slot.token.path = some slot := by
  cases found : bus.slot? slot.token.path with
  | none =>
      exact absurd (List.mem_map_of_mem member) (slot?_eq_none.mp found)
  | some other =>
      obtain ⟨otherMem, same⟩ := mem_of_slot? found
      rw [sound.eq_of_path otherMem member same]

theorem hasChanged_eq_false {bus : Bus Effect} (sound : bus.Sound) {token : Token} :
    bus.hasChanged token = false ↔ bus.Live token := by
  constructor
  · intro unchanged
    cases found : bus.slot? token.path with
    | none => simp [hasChanged, found] at unchanged
    | some slot =>
        simp only [hasChanged, found, Option.all_some, ne_eq, decide_not, Bool.not_eq_false',
          decide_eq_true_eq] at unchanged
        exact ⟨slot, (mem_of_slot? found).1, unchanged⟩
  · rintro ⟨slot, member, rfl⟩
    simp [hasChanged, sound.slot?_eq member]

theorem hasChanged_eq_true {bus : Bus Effect} (sound : bus.Sound) {token : Token} :
    bus.hasChanged token = true ↔ ¬bus.Live token := by
  rw [← hasChanged_eq_false sound, Bool.not_eq_false]

theorem token_cases (bus : Bus Effect) (path : String) :
    (∃ slot, bus.slot? path = some slot ∧ bus.token path = (slot.token, bus)) ∨
    (bus.slot? path = none ∧ bus.token path =
      (⟨path, bus.nextId⟩, ⟨bus.slots ++ [⟨⟨path, bus.nextId⟩, []⟩], bus.nextId + 1⟩)) := by
  unfold Bus.token
  cases found : bus.slot? path with
  | some slot => exact Or.inl ⟨slot, rfl, rfl⟩
  | none => exact Or.inr ⟨rfl, rfl⟩

theorem token_path (bus : Bus Effect) (path : String) : (bus.token path).1.path = path := by
  rcases bus.token_cases path with ⟨slot, found, answer⟩ | ⟨_, answer⟩
  · rw [answer]
    exact (mem_of_slot? found).2
  · rw [answer]

theorem Sound.token {bus : Bus Effect} (sound : bus.Sound) (path : String) :
    (bus.token path).2.Sound := by
  rcases bus.token_cases path with ⟨slot, found, answer⟩ | ⟨absent, answer⟩
  · rw [answer]
    exact sound
  · rw [answer]
    constructor
    · have fresh := slot?_eq_none.mp absent
      simp only [pathsOf, List.map_append, List.map_cons, List.map_nil] at fresh ⊢
      exact List.nodup_append.mpr ⟨sound.paths, by simp, by simpa using fresh⟩
    · intro first firstMem second secondMem same
      simp only [List.mem_append, List.mem_singleton] at firstMem secondMem
      rcases firstMem with firstMem | rfl <;> rcases secondMem with secondMem | rfl
      · exact sound.ids first firstMem second secondMem same
      · exact absurd same (Nat.ne_of_lt (sound.made first firstMem))
      · exact absurd same.symm (Nat.ne_of_lt (sound.made second secondMem))
      · rfl
    · intro slot member
      simp only [List.mem_append, List.mem_singleton] at member
      rcases member with member | rfl
      · exact Nat.lt_succ_of_lt (sound.made slot member)
      · exact Nat.lt_succ_self _

theorem live_token (bus : Bus Effect) (path : String) :
    (bus.token path).2.Live (bus.token path).1 := by
  rcases bus.token_cases path with ⟨slot, found, answer⟩ | ⟨_, answer⟩
  · rw [answer]
    exact ⟨slot, (mem_of_slot? found).1, rfl⟩
  · rw [answer]
    exact ⟨_, List.mem_append_right _ (List.mem_singleton_self _), rfl⟩

theorem mem_token {bus : Bus Effect} {path : String} {slot : Slot Effect}
    (member : slot ∈ bus.slots) : slot ∈ (bus.token path).2.slots := by
  rcases bus.token_cases path with ⟨_, _, answer⟩ | ⟨_, answer⟩
  · rw [answer]
    exact member
  · rw [answer]
    exact List.mem_append_left _ member

theorem of_mem_token {bus : Bus Effect} {path : String} {slot : Slot Effect}
    (member : slot ∈ (bus.token path).2.slots) :
    slot ∈ bus.slots ∨
      slot = ⟨⟨path, bus.nextId⟩, []⟩ ∧ (bus.token path).1 = ⟨path, bus.nextId⟩ := by
  rcases bus.token_cases path with ⟨_, _, answer⟩ | ⟨_, answer⟩
  · rw [answer] at member
    exact Or.inl member
  · rw [answer] at member ⊢
    simpa using member

theorem slots_wait {bus : Bus Effect} (sound : bus.Sound) (path : String)
    (callback : Callback Effect) :
    (bus.wait path callback).slots =
      (bus.token path).2.slots.map (Slot.joined path callback) :=
  addWaiter_eq_map path callback _ (sound.token path).paths

theorem Sound.wait {bus : Bus Effect} (sound : bus.Sound) (path : String)
    (callback : Callback Effect) : (bus.wait path callback).Sound := by
  have asked := sound.token path
  constructor
  · simpa [slots_wait sound, pathsOf, Function.comp_def] using asked.paths
  · rw [slots_wait sound]
    intro first firstMem second secondMem same
    obtain ⟨_, firstOld, rfl⟩ := List.mem_map.mp firstMem
    obtain ⟨_, secondOld, rfl⟩ := List.mem_map.mp secondMem
    simp only [Slot.joined_token] at same ⊢
    exact asked.ids _ firstOld _ secondOld same
  · rw [slots_wait sound]
    intro slot member
    obtain ⟨_, old, rfl⟩ := List.mem_map.mp member
    rw [Slot.joined_token]
    exact asked.made _ old

theorem live_wait {bus : Bus Effect} (sound : bus.Sound) (path : String)
    (callback : Callback Effect) (token : Token) :
    (bus.wait path callback).Live token ↔ (bus.token path).2.Live token := by
  simp [Live, slots_wait sound]

theorem waits_wait {bus : Bus Effect} (sound : bus.Sound) (path : String)
    (callback : Callback Effect) :
    (bus.wait path callback).Waits callback.effect (bus.token path).1 := by
  obtain ⟨slot, member, same⟩ := bus.live_token path
  refine ⟨slot.joined path callback, ?_, by rw [slot.joined_token, same], callback, ?_, rfl⟩
  · rw [slots_wait sound]
    exact List.mem_map_of_mem member
  · have here : slot.token.path = path := by rw [same, bus.token_path]
    simp [Slot.joined, here]

theorem of_waiting_wait {bus : Bus Effect} (sound : bus.Sound) {path : String}
    {callback other : Callback Effect} {slot : Slot Effect}
    (member : slot ∈ (bus.wait path callback).slots) (waits : other ∈ slot.waiters) :
    (∃ old ∈ bus.slots, old.token = slot.token ∧ other ∈ old.waiters) ∨
      (other = callback ∧ slot.token = (bus.token path).1) := by
  rw [slots_wait sound] at member
  obtain ⟨old, oldMem, rfl⟩ := List.mem_map.mp member
  have kept : other ∈ old.waiters →
      ∃ old' ∈ bus.slots, old'.token = old.token ∧ other ∈ old'.waiters := by
    intro waited
    rcases of_mem_token oldMem with known | ⟨rfl, _⟩
    · exact ⟨old, known, rfl, waited⟩
    · simp at waited
  rw [Slot.joined_token]
  by_cases here : old.token.path = path
  · simp only [Slot.joined, here, if_true, List.mem_append, List.mem_singleton] at waits
    rcases waits with waited | rfl
    · exact Or.inl (kept waited)
    · refine Or.inr ⟨rfl, ?_⟩
      obtain ⟨live, liveMem, same⟩ := bus.live_token path
      rw [← same]
      have samePath : old.token.path = live.token.path := by rw [here, same, bus.token_path]
      rw [(sound.token path).eq_of_path oldMem liveMem samePath]
  · simp only [Slot.joined, here, if_false] at waits
    exact Or.inl (kept waits)

theorem token_of_unchanged {bus : Bus Effect} {token : Token}
    (unchanged : bus.hasChanged token = false) : bus.token token.path = (token, bus) := by
  cases found : bus.slot? token.path with
  | none => simp [hasChanged, found] at unchanged
  | some slot =>
      simp only [hasChanged, found, Option.all_some, ne_eq, decide_not, Bool.not_eq_false',
        decide_eq_true_eq] at unchanged
      simp [Bus.token, found, unchanged]

theorem slots_wait_of_live {bus : Bus Effect} (sound : bus.Sound) {token : Token}
    (live : bus.Live token) (callback : Callback Effect) :
    (bus.wait token.path callback).slots = bus.slots.map (Slot.joined token.path callback) := by
  rw [slots_wait sound, token_of_unchanged ((hasChanged_eq_false sound).mpr live)]

theorem fire_cases {bus : Bus Effect} (sound : bus.Sound) (path : String) :
    (bus.slot? path = none ∧ bus.fire path = ([], bus)) ∨
    ∃ slot, bus.slot? path = some slot ∧ bus.fire path =
      (slot.waiters,
        ⟨bus.slots.map (Slot.renewed ⟨path, bus.nextId⟩), bus.nextId + 1⟩) := by
  unfold Bus.fire
  cases found : bus.slot? path with
  | none => exact Or.inl ⟨rfl, rfl⟩
  | some slot =>
      refine Or.inr ⟨slot, rfl, ?_⟩
      simp only [renewSlot_eq_map _ _ sound.paths]

theorem mem_renewed {bus : Bus Effect} {path : String} {slot : Slot Effect} :
    slot ∈ bus.slots.map (Slot.renewed ⟨path, bus.nextId⟩) →
      (slot ∈ bus.slots ∧ slot.token.path ≠ path) ∨ slot = ⟨⟨path, bus.nextId⟩, []⟩ := by
  intro member
  obtain ⟨old, oldMem, rfl⟩ := List.mem_map.mp member
  by_cases same : old.token.path = path
  · exact Or.inr (by simp [Slot.renewed, same])
  · exact Or.inl (by simpa [Slot.renewed, same] using oldMem)

theorem mem_renewed_of_ne {bus : Bus Effect} {path : String} {slot : Slot Effect}
    (member : slot ∈ bus.slots) (other : slot.token.path ≠ path) :
    slot ∈ bus.slots.map (Slot.renewed ⟨path, bus.nextId⟩) :=
  List.mem_map.mpr ⟨slot, member, by simp [Slot.renewed, other]⟩

theorem Sound.fire {bus : Bus Effect} (sound : bus.Sound) (path : String) :
    (bus.fire path).2.Sound := by
  rcases fire_cases sound path with ⟨_, answer⟩ | ⟨_, _, answer⟩
  · rw [answer]
    exact sound
  · rw [answer]
    constructor
    · have same : pathsOf (bus.slots.map (Slot.renewed ⟨path, bus.nextId⟩)) =
          pathsOf bus.slots := by
        simp [pathsOf, Function.comp_def, Slot.renewed_path]
      exact same ▸ sound.paths
    · intro first firstMem second secondMem same
      rcases mem_renewed firstMem with ⟨firstOld, _⟩ | rfl <;>
        rcases mem_renewed secondMem with ⟨secondOld, _⟩ | rfl
      · exact sound.ids first firstOld second secondOld same
      · exact absurd same (Nat.ne_of_lt (sound.made first firstOld))
      · exact absurd same.symm (Nat.ne_of_lt (sound.made second secondOld))
      · rfl
    · intro slot member
      rcases mem_renewed member with ⟨old, _⟩ | rfl
      · exact Nat.lt_succ_of_lt (sound.made slot old)
      · exact Nat.lt_succ_self _

theorem nextId_le_token (bus : Bus Effect) (path : String) :
    bus.nextId ≤ (bus.token path).2.nextId := by
  rcases bus.token_cases path with ⟨_, _, answer⟩ | ⟨_, answer⟩
  · exact Nat.le_of_eq (by rw [answer])
  · rw [answer]
    exact Nat.le_succ _

theorem nextId_le_fire {bus : Bus Effect} (sound : bus.Sound) (path : String) :
    bus.nextId ≤ (bus.fire path).2.nextId := by
  rcases fire_cases sound path with ⟨_, answer⟩ | ⟨_, _, answer⟩
  · exact Nat.le_of_eq (by rw [answer])
  · rw [answer]
    exact Nat.le_succ _

/-- What comes of a bus: tokens that were made stay made, and none of them comes to life again. -/
structure Later (bus later : Bus Effect) : Prop where
  made : bus.nextId ≤ later.nextId
  live : ∀ token, token.id < bus.nextId → later.Live token → bus.Live token

theorem Later.refl (bus : Bus Effect) : bus.Later bus :=
  ⟨Nat.le_refl _, fun _ _ live => live⟩

theorem later_token (bus : Bus Effect) (path : String) : bus.Later (bus.token path).2 := by
  refine ⟨bus.nextId_le_token path, ?_⟩
  rintro token made ⟨slot, member, rfl⟩
  rcases of_mem_token member with old | ⟨rfl, _⟩
  · exact ⟨slot, old, rfl⟩
  · exact absurd made (Nat.lt_irrefl _)

theorem later_wait {bus : Bus Effect} (sound : bus.Sound) (path : String)
    (callback : Callback Effect) : bus.Later (bus.wait path callback) := by
  refine ⟨bus.nextId_le_token path, ?_⟩
  intro token made live
  exact (bus.later_token path).live token made ((live_wait sound path callback token).mp live)

theorem live_fire {bus : Bus Effect} (sound : bus.Sound) {path : String} {token : Token}
    (made : token.id < bus.nextId) (live : (bus.fire path).2.Live token) :
    bus.Live token ∧ token.path ≠ path := by
  obtain ⟨slot, member, rfl⟩ := live
  rcases fire_cases sound path with ⟨absent, answer⟩ | ⟨_, _, answer⟩
  · simp only [answer] at member
    refine ⟨⟨slot, member, rfl⟩, ?_⟩
    rintro same
    exact slot?_eq_none.mp absent (same ▸ List.mem_map_of_mem member)
  · simp only [answer] at member
    rcases mem_renewed member with ⟨old, other⟩ | rfl
    · exact ⟨⟨slot, old, rfl⟩, other⟩
    · exact absurd made (Nat.lt_irrefl _)

theorem later_fire {bus : Bus Effect} (sound : bus.Sound) (path : String) :
    bus.Later (bus.fire path).2 :=
  ⟨nextId_le_fire sound path, fun _ made live => (live_fire sound made live).1⟩

end Bus

end LiveViews.Signal
