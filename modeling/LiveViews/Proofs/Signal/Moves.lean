import LiveViews.Proofs.Signal.Accounting

/-!
What a move of the jobs does to the bus: it leaves the bus alone, asks for a token, or fires one
(`advance_cases`). A token that has fired is spent for good, and a callback that waits goes on waiting
until its path is signalled (`keep_advance`).
-/

namespace LiveViews.Signal

variable {Label : Type}

def Event.signalled? : Event Label → Option String
  | .ignored path => some path
  | .fired token => some token.path
  | .handed _ | .registered _ _ | .ran _ _ | .settled _ => none

def Quiet (path : String) (events : List (Event Label)) : Prop :=
  ∀ event ∈ events, event.signalled? ≠ some path

/-- A token that was made and can be live no more. -/
def Bus.Spent (bus : Bus Label) (token : Token) : Prop :=
  token.id < bus.nextId ∧ ∀ slot ∈ bus.slots, slot.token.id ≠ token.id

theorem Bus.Spent.not_live {bus : Bus Label} {token : Token} (spent : bus.Spent token) :
    ¬bus.Live token := by
  rintro ⟨slot, member, rfl⟩
  exact spent.2 slot member rfl

theorem advance_cases (bus : Bus Label) (job : Job Label) :
    ((advance bus job).bus = bus ∧ ∀ event ∈ (advance bus job).events,
      (∀ token, event ≠ .handed token) ∧ (∀ token, event ≠ .fired token) ∧
        ∀ path, event = .ignored path → bus.slot? path = none) ∨
    (∃ path, ((advance bus job).bus = (bus.token path).2 ∨
        ∃ callback, (advance bus job).bus = bus.wait path callback ∧
          .registered callback.effect (bus.token path).1 ∈ (advance bus job).events) ∧
      ∀ event ∈ (advance bus job).events,
        event = .handed (bus.token path).1 ∨ ∃ label token, event = .registered label token) ∨
    ∃ path actions slot, job = .follow (.signal path actions) ∧ bus.slot? path = some slot ∧
      advance bus job = ⟨[.fired slot.token], (bus.fire path).2,
        callsOf slot.token slot.waiters ++ [.settle slot.token, .follow actions]⟩ := by
  match job with
  | .call (.mk _ _) _ => exact Or.inl ⟨rfl, by simp [advance]⟩
  | .settle _ => exact Or.inl ⟨rfl, by simp [advance]⟩
  | .follow .done => exact Or.inl ⟨rfl, by simp [advance]⟩
  | .follow (.ask path _) => exact Or.inr (Or.inl ⟨path, Or.inl rfl, by simp [advance]⟩)
  | .follow (.signal path actions) =>
      cases found : bus.slot? path with
      | none =>
          refine Or.inl ?_
          simp [advance, found]
      | some slot =>
          exact Or.inr (Or.inr ⟨path, actions, slot, rfl, found, by simp [advance, found]⟩)
  | .follow (.register path (.mk label inner) _) =>
      exact Or.inr (Or.inl ⟨path, Or.inr ⟨.mk label inner, rfl, by simp [advance, Callback.effect]⟩,
        by simp [advance]⟩)
  | .follow (.registerOn token (.mk label inner) _) =>
      by_cases changed : bus.hasChanged token = true
      · exact Or.inl (by simp [advance, changed])
      · have live := Bus.token_of_unchanged (Bool.eq_false_iff.mpr changed)
        exact Or.inr (Or.inl ⟨token.path, Or.inr ⟨.mk label inner, by simp [advance, changed],
          by simp [advance, changed, live, Callback.effect]⟩, by simp [advance, changed]⟩)

theorem Bus.Sound.advance {bus : Bus Label} (sound : bus.Sound) (job : Job Label) :
    (advance bus job).bus.Sound := by
  rcases advance_cases bus job with ⟨same, _⟩ | ⟨path, same | ⟨callback, same, _⟩, _⟩ |
    ⟨path, _, _, _, _, same⟩
  · rw [same]
    exact sound
  · rw [same]
    exact sound.token path
  · rw [same]
    exact sound.wait path callback
  · rw [same]
    exact sound.fire path

theorem later_advance {bus : Bus Label} (sound : bus.Sound) (job : Job Label) :
    bus.Later (advance bus job).bus := by
  rcases advance_cases bus job with ⟨same, _⟩ | ⟨path, same | ⟨callback, same, _⟩, _⟩ |
    ⟨path, _, _, _, _, same⟩
  · rw [same]
    exact Bus.Later.refl bus
  · rw [same]
    exact bus.later_token path
  · rw [same]
    exact Bus.later_wait sound path callback
  · rw [same]
    exact Bus.later_fire sound path

theorem Bus.Spent.advance {bus : Bus Label} (sound : bus.Sound) {token : Token}
    (spent : bus.Spent token) (job : Job Label) : (advance bus job).bus.Spent token := by
  have later := later_advance sound job
  refine ⟨Nat.lt_of_lt_of_le spent.1 later.made, ?_⟩
  intro slot member
  by_cases made : slot.token.id < bus.nextId
  · obtain ⟨old, oldMem, same⟩ := later.live slot.token made ⟨slot, member, rfl⟩
    rw [← same]
    exact spent.2 old oldMem
  · have before := spent.1
    omega

theorem spent_of_fired {bus : Bus Label} (sound : bus.Sound) {job : Job Label} {token : Token}
    (fired : .fired token ∈ (advance bus job).events) :
    bus.Live token ∧ (advance bus job).bus.Spent token := by
  rcases advance_cases bus job with ⟨_, silent⟩ | ⟨path, _, silent⟩ |
    ⟨path, _, slot, _, found, same⟩
  · exact absurd rfl ((silent _ fired).2.1 token)
  · rcases silent _ fired with handed | ⟨_, _, registered⟩
    · cases handed
    · cases registered
  · simp only [same, List.mem_singleton, Event.fired.injEq] at fired
    subst fired
    obtain ⟨member, rfl⟩ := Bus.mem_of_slot? found
    refine ⟨⟨slot, member, rfl⟩, ?_⟩
    rcases Bus.fire_cases sound slot.token.path with ⟨absent, _⟩ | ⟨_, _, answer⟩
    · rw [absent] at found
      exact absurd found (by simp)
    · rw [same]
      simp only [answer]
      refine ⟨Nat.lt_succ_of_lt (sound.made slot member), ?_⟩
      intro other otherMem
      rcases Bus.mem_renewed otherMem with ⟨old, different⟩ | rfl
      · intro sameId
        exact different (congrArg Token.path (sound.ids other old slot member sameId))
      · exact Nat.ne_of_gt (sound.made slot member)

theorem live_of_handed {bus : Bus Label} (sound : bus.Sound) {job : Job Label} {token : Token}
    (handed : .handed token ∈ (advance bus job).events) : (advance bus job).bus.Live token := by
  rcases advance_cases bus job with ⟨_, silent⟩ | ⟨path, shape, silent⟩ |
    ⟨_, _, _, _, _, same⟩
  · exact absurd rfl ((silent _ handed).1 token)
  · rcases silent _ handed with asked | ⟨_, _, registered⟩
    · cases asked
      rcases shape with same | ⟨callback, same, _⟩
      · rw [same]
        exact bus.live_token path
      · rw [same, Bus.live_wait sound]
        exact bus.live_token path
    · cases registered
  · simp [same] at handed

theorem keep_advance {bus : Bus Label} (sound : bus.Sound) {slot : Slot Label}
    (member : slot ∈ bus.slots) (job : Job Label) :
    (∃ later ∈ (advance bus job).bus.slots, later.token = slot.token ∧
      slot.waiters ⊆ later.waiters ∧ Quiet slot.token.path (advance bus job).events) ∨
    ∃ actions, advance bus job = ⟨[.fired slot.token], (bus.fire slot.token.path).2,
      callsOf slot.token slot.waiters ++ [.settle slot.token, .follow actions]⟩ := by
  rcases advance_cases bus job with ⟨same, silent⟩ | ⟨path, shape, silent⟩ |
    ⟨path, actions, other, _, found, same⟩
  · refine Or.inl ⟨slot, by rw [same]; exact member, rfl, List.Subset.refl _, ?_⟩
    intro event happened signalled
    cases event <;> simp only [Event.signalled?, reduceCtorEq, Option.some.injEq] at signalled
    · have absent := (silent _ happened).2.2 _ rfl
      rw [signalled, sound.slot?_eq member] at absent
      exact absurd absent (by simp)
    · exact absurd rfl ((silent _ happened).2.1 _)
  · have quiet : Quiet slot.token.path (advance bus job).events := by
      intro event happened
      rcases silent _ happened with rfl | ⟨_, _, rfl⟩ <;> simp [Event.signalled?]
    refine Or.inl ?_
    rcases shape with same | ⟨added, same, _⟩
    · exact ⟨slot, by rw [same]; exact Bus.mem_token member, rfl, List.Subset.refl _, quiet⟩
    · refine ⟨slot.joined path added, ?_, slot.joined_token path added, ?_, quiet⟩
      · rw [same, Bus.slots_wait sound]
        exact List.mem_map_of_mem (Bus.mem_token member)
      · unfold Slot.joined
        split
        · exact List.subset_append_left _ _
        · exact List.Subset.refl _
  · obtain ⟨otherMem, rfl⟩ := Bus.mem_of_slot? found
    by_cases here : slot.token.path = other.token.path
    · rw [sound.eq_of_path member otherMem here]
      exact Or.inr ⟨actions, same⟩
    · refine Or.inl ⟨slot, ?_, rfl, List.Subset.refl _, ?_⟩
      · rcases Bus.fire_cases sound other.token.path with ⟨_, answer⟩ | ⟨_, _, answer⟩
        · rw [same]
          simpa only [answer] using member
        · rw [same]
          simpa only [answer] using Bus.mem_renewed_of_ne member here
      · simpa [same, Quiet, Event.signalled?] using Ne.symm here

theorem live_advance {bus : Bus Label} (sound : bus.Sound) {slot : Slot Label}
    (member : slot ∈ bus.slots) (job : Job Label) :
    (advance bus job).bus.Live slot.token ∨ .fired slot.token ∈ (advance bus job).events := by
  rcases keep_advance sound member job with ⟨later, laterMem, same, _⟩ | ⟨_, same⟩
  · exact Or.inl ⟨later, laterMem, same⟩
  · exact Or.inr (by simp [same])

theorem of_waiting_advance {bus : Bus Label} (sound : bus.Sound) {job : Job Label}
    {slot : Slot Label} {callback : Callback Label} (member : slot ∈ (advance bus job).bus.slots)
    (waits : callback ∈ slot.waiters) :
    (∃ old ∈ bus.slots, old.token = slot.token ∧ callback ∈ old.waiters) ∨
      .registered callback.effect slot.token ∈ (advance bus job).events := by
  rcases advance_cases bus job with ⟨same, _⟩ | ⟨path, same | ⟨added, same, registered⟩, _⟩ |
    ⟨path, _, _, _, _, same⟩
  · rw [same] at member
    exact Or.inl ⟨slot, member, rfl, waits⟩
  · rw [same] at member
    rcases Bus.of_mem_token member with old | ⟨rfl, _⟩
    · exact Or.inl ⟨slot, old, rfl, waits⟩
    · simp at waits
  · rw [same] at member
    rcases Bus.of_waiting_wait sound member waits with old | ⟨rfl, here⟩
    · exact Or.inl old
    · exact Or.inr (here ▸ registered)
  · rw [same] at member
    rcases Bus.fire_cases sound path with ⟨_, answer⟩ | ⟨_, _, answer⟩
    · simp only [answer] at member
      exact Or.inl ⟨slot, member, rfl, waits⟩
    · simp only [answer] at member
      rcases Bus.mem_renewed member with ⟨old, _⟩ | rfl
      · exact Or.inl ⟨slot, old, rfl, waits⟩
      · simp at waits

theorem registered_cases {bus : Bus Label} (sound : bus.Sound) {job : Job Label} {label : Label}
    {token : Token} (registered : .registered label token ∈ (advance bus job).events) :
    (¬bus.Live token ∧ ∃ inner actions, advance bus job =
      ⟨[.registered label token], bus, [.call (.mk label inner) none, .follow actions]⟩) ∨
    (advance bus job).bus.Waits label token := by
  match job with
  | .call (.mk _ _) _ => simp [advance] at registered
  | .settle _ => simp [advance] at registered
  | .follow .done => simp [advance] at registered
  | .follow (.ask _ _) => simp [advance] at registered
  | .follow (.signal path _) =>
      simp only [advance] at registered
      split at registered <;> simp at registered
  | .follow (.register path (.mk own inner) actions) =>
      simp only [advance, List.mem_cons, reduceCtorEq, Event.registered.injEq, List.not_mem_nil,
        or_false, false_or] at registered
      obtain ⟨rfl, rfl⟩ := registered
      exact Or.inr (Bus.waits_wait sound path (.mk label inner))
  | .follow (.registerOn wanted (.mk own inner) actions) =>
      by_cases changed : bus.hasChanged wanted = true
      · simp only [advance, changed, if_true, List.mem_singleton, Event.registered.injEq]
          at registered
        obtain ⟨rfl, rfl⟩ := registered
        exact Or.inl ⟨(Bus.hasChanged_eq_true sound).mp changed, inner, actions,
          by simp [advance, changed]⟩
      · have live := Bus.token_of_unchanged (Bool.eq_false_iff.mpr changed)
        simp only [advance, changed, Bool.false_eq_true, if_false, List.mem_singleton,
          Event.registered.injEq] at registered
        obtain ⟨rfl, rfl⟩ := registered
        have waits := Bus.waits_wait sound token.path (.mk label inner)
        rw [live] at waits
        exact Or.inr (by simpa [advance, changed, Callback.effect] using waits)

theorem eq_nil_of_registered {bus : Bus Label} {job : Job Label} {label : Label} {token : Token}
    {early late : List (Event Label)}
    (split : (advance bus job).events = early ++ .registered label token :: late) : late = [] := by
  have alone : ∀ (event : Event Label) (early : List (Event Label)),
      [event] = early ++ .registered label token :: late → late = [] := by
    intro event early same
    cases early <;> simp_all
  match job with
  | .call (.mk _ _) _ => exact alone _ _ split
  | .settle _ => exact alone _ _ split
  | .follow .done => simp [advance] at split
  | .follow (.ask _ _) => exact alone _ _ split
  | .follow (.signal path _) =>
      simp only [advance] at split
      split at split <;> exact alone _ _ split
  | .follow (.register path (.mk _ _) _) =>
      cases early with
      | nil => simp [advance] at split
      | cons first rest =>
          simp only [advance, List.cons_append, List.cons.injEq] at split
          exact alone _ _ split.2
  | .follow (.registerOn wanted (.mk _ _) _) =>
      simp only [advance] at split
      split at split <;> exact alone _ _ split

theorem eq_nil_of_fired {bus : Bus Label} {job : Job Label} {token : Token}
    {early late : List (Event Label)}
    (split : (advance bus job).events = early ++ .fired token :: late) : early = [] := by
  have fired : .fired token ∈ (advance bus job).events := by simp [split]
  rcases advance_cases bus job with ⟨_, silent⟩ | ⟨_, _, silent⟩ | ⟨_, _, _, _, _, same⟩
  · exact absurd rfl ((silent _ fired).2.1 token)
  · rcases silent _ fired with handed | ⟨_, _, registered⟩
    · cases handed
    · cases registered
  · rw [same] at split
    cases early with
    | nil => rfl
    | cons first rest => simp at split

theorem settle_of_settled {bus : Bus Label} {job : Job Label} {token : Token}
    (settled : .settled token ∈ (advance bus job).events) : .settle token = job := by
  match job with
  | .call (.mk _ _) _ => simp [advance] at settled
  | .settle _ => simpa [advance] using settled
  | .follow .done => simp [advance] at settled
  | .follow (.ask _ _) => simp [advance] at settled
  | .follow (.signal path _) =>
      simp only [advance] at settled
      split at settled <;> simp at settled
  | .follow (.register _ (.mk _ _) _) => simp [advance] at settled
  | .follow (.registerOn _ (.mk _ _) _) =>
      simp only [advance] at settled
      split at settled <;> simp at settled

theorem live_of_settle {bus : Bus Label} {job : Job Label} {token : Token}
    (marked : .settle token ∈ (advance bus job).jobs) : bus.Live token := by
  match job with
  | .call (.mk _ _) _ => simp [advance] at marked
  | .settle _ => simp [advance] at marked
  | .follow .done => simp [advance] at marked
  | .follow (.ask _ _) => simp [advance] at marked
  | .follow (.signal path _) =>
      cases found : bus.slot? path with
      | none => simp [advance, found] at marked
      | some slot =>
          simp only [advance, found, callsOf, List.mem_append, List.mem_map, reduceCtorEq,
            and_false, exists_false, List.mem_cons, Job.settle.injEq, List.not_mem_nil, or_false,
            false_or] at marked
          exact ⟨slot, (Bus.mem_of_slot? found).1, marked.symm⟩
  | .follow (.register _ (.mk _ _) _) => simp [advance] at marked
  | .follow (.registerOn _ (.mk _ _) _) =>
      simp only [advance] at marked
      split at marked <;> simp at marked

end LiveViews.Signal
