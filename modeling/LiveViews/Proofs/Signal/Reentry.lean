import LiveViews.Proofs.Signal.Operations

/-!
Signals given while a signal is carried out. Callbacks may signal the path that is being fired, and one
another's in a circle; a signal ends all the same, takes its callbacks in turn and runs no node of the
waiting trees twice (`signal_ends_in_turns`).
-/

namespace LiveViews.Signal

variable {Label : Type}

inductive Moves : Nat → Bus Label → List (Job Label) → Bus Label → List (Job Label) → Prop
  | here {bus jobs} : Moves 0 bus jobs bus jobs
  | move {count bus job rest later pending} :
      Moves count (advance bus job).bus ((advance bus job).jobs ++ rest) later pending →
      Moves (count + 1) bus (job :: rest) later pending

theorem Moves.weight {count : Nat} {bus later : Bus Label} {jobs pending : List (Job Label)}
    (moves : Moves count bus jobs later pending) :
    2 * slotsWeight later.slots + jobsWeight pending + count ≤
      2 * slotsWeight bus.slots + jobsWeight jobs := by
  induction moves with
  | here => exact Nat.le_refl _
  | @move _ bus job _ _ _ _ ih =>
      have lighter := advance_weight bus job
      rw [jobsWeight_append] at ih
      rw [jobsWeight]
      omega

theorem moves_record (bus : Bus Label) (jobs : List (Job Label)) :
    ∃ count, Moves count bus jobs (record bus jobs).1 [] := by
  induction bus, jobs using record.induct with
  | case1 bus =>
      rw [record]
      exact ⟨0, Moves.here⟩
  | case2 bus job rest ih =>
      obtain ⟨count, moves⟩ := ih
      rw [record]
      exact ⟨count + 1, Moves.move moves⟩

def signalling (path : String) : List (Job Label) :=
  [.follow (.signal path .done)]

/-- Every way of moves from a signal is bounded by what waits, and one of them leads to its end. -/
structure Terminates (bus : Bus Label) (path : String) : Prop where
  ends : ∃ count, Moves count bus (signalling path) (bus.signal path).bus []
  bounded : ∀ count later pending, Moves count bus (signalling path) later pending →
    count ≤ 2 * slotsWeight bus.slots + 4

theorem signal_eq_record (bus : Bus Label) (path : String) :
    bus.signal path = ⟨(bus.fire path).1.length, (record bus (signalling path)).1,
      ranLabels (record bus (signalling path)).2⟩ := by
  have worked : run bus [.follow (.signal path .done)] =
      ((bus.signal path).bus, (bus.signal path).effects) := by
    simpa [Operation.before, Bus.perform, run] using run_before bus (.signal path) .done
  have recorded : run bus [.follow (.signal path .done)] =
      ((record bus (signalling path)).1, ranLabels (record bus (signalling path)).2) :=
    run_eq_record bus (signalling path)
  rw [worked, Prod.mk.injEq] at recorded
  rw [← recorded.1, ← recorded.2]
  rfl

theorem terminates (bus : Bus Label) (path : String) : Terminates bus path := by
  constructor
  · rw [signal_eq_record]
    exact moves_record bus (signalling path)
  · intro count later pending moves
    have bound := moves.weight
    simp only [signalling, jobsWeight, Job.weight, Actions.weight] at bound
    omega

/-- The callbacks one after the other, each with its actions carried out to the end before the next:
the bus in the end, and what happened. -/
def takeTurns (token : Token) (bus : Bus Label) :
    List (Callback Label) → Bus Label × List (Event Label)
  | [] => (bus, [])
  | .mk label actions :: rest =>
    let turn := record bus [.follow actions]
    let later := takeTurns token turn.1 rest
    (later.1, .ran label (some token) :: (turn.2 ++ later.2))

theorem record_callsOf (token : Token) (bus : Bus Label) (callbacks : List (Callback Label)) :
    record bus (callsOf token callbacks) = takeTurns token bus callbacks := by
  induction callbacks generalizing bus with
  | nil => simp [callsOf, takeTurns, record]
  | cons first rest ih =>
      obtain ⟨label, actions⟩ := first
      simp only [record_callsOf_cons, takeTurns, ih]

theorem record_signalling {bus : Bus Label} {path : String} {slot : Slot Label}
    (found : bus.slot? path = some slot) :
    record bus (signalling path) =
      let turns := takeTurns slot.token (bus.fire path).2 slot.waiters
      (turns.1, .fired slot.token :: turns.2 ++ [.settled slot.token]) := by
  rw [signalling, record, List.append_nil, ← record_callsOf]
  simp only [advance, found, record_append]
  simp [record, advance]

def Called (past : List (Event Label)) (jobs : List (Job Label)) : Prop :=
  ∀ callback token, .call callback (some token) ∈ jobs → .fired token ∈ past

theorem Called.advance {past : List (Event Label)} {bus : Bus Label} {job : Job Label}
    {rest : List (Job Label)} (called : Called past (job :: rest)) :
    Called (past ++ (advance bus job).events) ((advance bus job).jobs ++ rest) := by
  intro callback token member
  rcases List.mem_append.mp member with now | later
  · match job with
    | .call (.mk _ _) _ => simp [Signal.advance] at now
    | .settle _ => simp [Signal.advance] at now
    | .follow .done => simp [Signal.advance] at now
    | .follow (.ask _ _) => simp [Signal.advance] at now
    | .follow (.signal path _) =>
        cases found : bus.slot? path with
        | none => simp [Signal.advance, found] at now
        | some slot =>
            simp only [Signal.advance, found, callsOf, List.mem_append, List.mem_map,
              Job.call.injEq, Option.some.injEq, List.mem_cons, reduceCtorEq, List.not_mem_nil,
              or_false] at now ⊢
            obtain ⟨_, _, _, rfl⟩ := now
            exact Or.inr rfl
    | .follow (.register _ (.mk _ _) _) => simp [Signal.advance] at now
    | .follow (.registerOn wanted (.mk _ _) _) =>
        simp only [Signal.advance] at now
        split at now <;> simp at now
  · exact List.mem_append_left _ (called callback token (List.mem_cons_of_mem _ later))

theorem Called.reaches {past events : List (Event Label)} {bus later : Bus Label}
    {jobs pending : List (Job Label)} (called : Called past jobs)
    (reached : Reaches bus jobs events later pending) : Called (past ++ events) pending := by
  induction reached generalizing past with
  | here => simpa using called
  | move _ ih =>
      rw [← List.append_assoc]
      exact ih called.advance

theorem call_of_ran {bus : Bus Label} {job : Job Label} {label : Label} {token : Token}
    (ran : .ran label (some token) ∈ (advance bus job).events) :
    ∃ actions, job = .call (.mk label actions) (some token) := by
  match job with
  | .call (.mk _ actions) _ =>
      simp only [advance, List.mem_singleton, Event.ran.injEq] at ran
      obtain ⟨rfl, rfl⟩ := ran
      exact ⟨actions, rfl⟩
  | .settle _ => simp [advance] at ran
  | .follow .done => simp [advance] at ran
  | .follow (.ask _ _) => simp [advance] at ran
  | .follow (.signal path _) =>
      simp only [advance] at ran
      split at ran <;> simp at ran
  | .follow (.register _ (.mk _ _) _) => simp [advance] at ran
  | .follow (.registerOn _ (.mk _ _) _) =>
      simp only [advance] at ran
      split at ran <;> simp at ran

theorem Called.fired_of_ran {past before after : List (Event Label)} {bus : Bus Label}
    {jobs : List (Job Label)} {label : Label} {token : Token} (called : Called past jobs)
    (split : (record bus jobs).2 = before ++ .ran label (some token) :: after) :
    .fired token ∈ past ++ before := by
  obtain ⟨events, later, job, rest, early, late, reached, moved, rfl, _⟩ :=
    record_split bus jobs split
  have ran : .ran label (some token) ∈ (Signal.advance later job).events := by simp [moved]
  obtain ⟨actions, rfl⟩ := call_of_ran ran
  rw [← List.append_assoc]
  exact List.mem_append_left _
    (called.reaches reached (.mk label actions) token List.mem_cons_self)

/-- Every node of the waiting trees has run, or is still held by the bus, and none of them twice. -/
theorem signal_labels_perm (bus : Bus Label) (path : String) :
    ((bus.signal path).effects ++ (bus.signal path).bus.labels).Perm bus.labels := by
  classical
  rw [List.perm_iff_count]
  intro label
  have counted := record_count bus (signalling path) label
  rw [List.count_append, signal_eq_record, counted]
  simp [signalling, Job.labels, Actions.labels]

def Bus.successor (bus : Bus Label) (path : String) : Token :=
  ⟨path, bus.nextId⟩

theorem token_fire {bus : Bus Label} (sound : bus.Sound) {path : String} {slot : Slot Label}
    (found : bus.slot? path = some slot) :
    (bus.fire path).2.token path = (bus.successor path, (bus.fire path).2) := by
  obtain ⟨member, here⟩ := Bus.mem_of_slot? found
  have renewed : ⟨bus.successor path, []⟩ ∈ (bus.fire path).2.slots := by
    rcases Bus.fire_cases sound path with ⟨absent, _⟩ | ⟨_, _, answer⟩
    · rw [absent] at found
      cases found
    · rw [answer]
      exact List.mem_map.mpr ⟨slot, member, by simp [Slot.renewed, here, Bus.successor]⟩
  have kept := (sound.fire path).slot?_eq renewed
  simp only [Bus.successor] at kept
  simp [Bus.token, kept, Bus.successor]

/-- How a signal is carried out that finds the slot of its path. -/
structure CarriedOut (bus : Bus Label) (path : String) (slot : Slot Label) : Prop where
  turns : bus.signal path =
    let turns := takeTurns slot.token (bus.fire path).2 slot.waiters
    ⟨slot.waiters.length, turns.1, ranLabels turns.2⟩
  fresh : (bus.fire path).2.token path = (bus.successor path, (bus.fire path).2)
  caused : ∀ before label token after,
    (takeTurns slot.token (bus.fire path).2 slot.waiters).2 =
      before ++ .ran label (some token) :: after →
    token = slot.token ∨ .fired token ∈ before
  /-- What is registered on the fresh token, or on one that is asked for meanwhile, waits to the end
  or for a signal of that token. -/
  registered : ∀ before label token after,
    (takeTurns slot.token (bus.fire path).2 slot.waiters).2 =
      before ++ .registered label token :: after →
    token = bus.successor path ∨ .handed token ∈ before → .fired token ∉ before →
    (Quiet token.path after ∧ (bus.signal path).bus.Waits label token ∧
      (bus.labels.Nodup → label ∉ (bus.signal path).effects)) ∨
    ∃ early inner rest late, after = early ++ .fired token ::
        (inner ++ .ran label (some token) :: rest) ++ .settled token :: late ∧
      Quiet token.path early ∧ (bus.labels.Nodup → label ∉ ranLabels (before ++ early))

theorem carriedOut {bus : Bus Label} (sound : bus.Sound) {path : String} {slot : Slot Label}
    (found : bus.slot? path = some slot) : CarriedOut bus path slot := by
  have turns : bus.signal path =
      let turns := takeTurns slot.token (bus.fire path).2 slot.waiters
      ⟨slot.waiters.length, turns.1, ranLabels turns.2⟩ := by
    have waiters : (bus.fire path).1 = slot.waiters := by simp [Bus.fire, found]
    rw [signal_eq_record, record_signalling found, waiters]
    simp [ranLabels_cons, Event.ranLabel?]
  have fresh := token_fire sound found
  refine ⟨turns, fresh, ?caused, ?registered⟩
  case caused =>
    intro before label token after split
    have called : Called [.fired slot.token] (callsOf slot.token slot.waiters) := by
      intro callback token member
      simp only [callsOf, List.mem_map, Job.call.injEq, Option.some.injEq] at member
      obtain ⟨_, _, _, rfl⟩ := member
      exact List.mem_cons_self
    rw [← record_callsOf] at split
    simpa using called.fired_of_ran split
  case registered =>
    intro before label token after split given unfired
    have once : bus.labels.Nodup →
        ((bus.signal path).effects ++ (bus.signal path).bus.labels).Nodup :=
      (signal_labels_perm bus path).nodup_iff.mpr
    have effects : (bus.signal path).effects =
        ranLabels (before ++ .registered label token :: after) := by
      rw [turns]
      exact congrArg ranLabels split
    have live : (bus.fire path).2.Live (bus.successor path) := by
      simpa [fresh] using (bus.fire path).2.live_token path
    have ledger : Ledger [.handed (bus.successor path)] (bus.fire path).2 :=
      ⟨sound.fire path, by simpa using live, by simp⟩
    have handed : .handed token ∈ [.handed (bus.successor path)] ++ before := by
      rcases given with rfl | handed
      · exact List.mem_cons_self
      · exact List.mem_cons_of_mem _ handed
    have final : (bus.signal path).bus =
        (record (bus.fire path).2 (callsOf slot.token slot.waiters)).1 := by
      rw [turns, record_callsOf]
    rw [← record_callsOf] at split
    rcases ledger.waits_of_registered split handed (by simpa using unfired) with
      ⟨quiet, waits⟩ | ⟨early, inner, rest, late, rfl, quiet, _⟩
    · rw [← final] at waits
      refine Or.inl ⟨quiet, waits, ?_⟩
      intro distinct ran
      obtain ⟨kept, member, _, callback, waiting, rfl⟩ := waits
      exact List.disjoint_of_nodup_append (once distinct) ran (effect_mem_busLabels member waiting)
    · refine Or.inr ⟨early, inner, rest, late, rfl, quiet, ?_⟩
      intro distinct ran
      have single := (List.nodup_append.mp (once distinct)).1
      rw [effects, List.append_assoc early, ← List.cons_append, ← List.append_assoc,
        ranLabels_append] at single
      have later : label ∈ ranLabels (.fired token ::
          (inner ++ .ran label (some token) :: rest) ++ .settled token :: late) :=
        mem_ranLabels.mpr ⟨some token, by simp⟩
      refine List.disjoint_of_nodup_append single ?_ later
      simpa [ranLabels_cons, Event.ranLabel?] using ran

/-- A signal ends whatever its callbacks signal and register: it counts those that waited for it and
takes them in turn, runs no more of them than the waiting trees have nodes, and leaves alone those that
are registered on the fresh token of its path. -/
theorem signal_ends_in_turns (bus : Bus Label) (sound : bus.Sound) (path : String) :
    Terminates bus path ∧
      (bus.signal path).effects.length ≤ bus.labels.length ∧
      ((bus.signal path).effects ++ (bus.signal path).bus.labels).Perm bus.labels ∧
      (bus.signal path).bus.Sound ∧
      (bus.slot? path = none → bus.signal path = ⟨0, bus, []⟩) ∧
      ∀ slot, bus.slot? path = some slot → CarriedOut bus path slot := by
  have kept := signal_labels_perm bus path
  refine ⟨terminates bus path, ?_, kept, ?_, ?_, fun _ found => carriedOut sound found⟩
  · rw [← kept.length_eq, List.length_append]
    exact Nat.le_add_right _ _
  · have ledger : Ledger [] bus := ⟨sound, by simp, by simp⟩
    rw [signal_eq_record]
    exact (ledger.reaches (reaches_record bus (signalling path))).sound
  · intro absent
    simp [Bus.signal, Bus.fire, absent, run]

def entangled : Bus Nat where
  slots := [⟨⟨"page", 0⟩, [.mk 1 (.signal "menu" (.register "page" (.mk 2 .done) .done)), .mk 3 .done]⟩,
    ⟨⟨"menu", 1⟩, [.mk 4 (.register "menu" (.mk 5 (.signal "page" .done)) (.signal "page" .done))]⟩]
  nextId := 2

theorem signal_ends_in_turns_entangled : entangled.Sound ∧ entangled.labels.Nodup ∧
    Terminates entangled "page" ∧
    (entangled.signal "page").effects.length ≤ entangled.labels.length ∧
    CarriedOut entangled "page" ⟨⟨"page", 0⟩, [.mk 1 (.signal "menu" (.register "page" (.mk 2 .done)
      .done)), .mk 3 .done]⟩ := by
  have sound : entangled.Sound := ⟨by decide, by decide, by decide⟩
  obtain ⟨ends, bounded, _, _, _, carried⟩ := signal_ends_in_turns entangled sound "page"
  exact ⟨sound, by decide, ends, bounded, carried _ rfl⟩

example : (entangled.signal "page").effects = [1, 4, 3] := by cbv

end LiveViews.Signal
