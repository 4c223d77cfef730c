import LiveViews.Proofs.Signal.Delivery

/-!
The bus as it is used: tokens are asked for, callbacks registered and paths signalled in any order,
on any token that was ever handed out. `delivered_exactly_once` is the main result.
-/

namespace LiveViews.Signal

variable {Label : Type}

inductive Operation (Label : Type) where
  | ask (path : String)
  | register (token : Token) (callback : Callback Label)
  | signal (path : String)

namespace Bus

def perform (bus : Bus Label) : Operation Label → Bus Label × List Label
  | .ask path => ((bus.token path).2, [])
  | .register token callback =>
    let answer := bus.register token callback
    (answer.bus, answer.effects)
  | .signal path =>
    let answer := bus.signal path
    (answer.bus, answer.effects)

def performAll (bus : Bus Label) : List (Operation Label) → Bus Label × List Label
  | [] => (bus, [])
  | operation :: rest =>
    let first := bus.perform operation
    let later := first.1.performAll rest
    (later.1, first.2 ++ later.2)

end Bus

def Operation.before (rest : Actions Label) : Operation Label → Actions Label
  | .ask path => .ask path rest
  | .register token callback => .registerOn token callback rest
  | .signal path => .signal path rest

def program : List (Operation Label) → Actions Label
  | [] => .done
  | operation :: rest => operation.before (program rest)

def history (start : Bus Label) (operations : List (Operation Label)) : List (Event Label) :=
  (record start [.follow (program operations)]).2

theorem run_append (bus : Bus Label) (first second : List (Task Label)) :
    run bus (first ++ second) =
      let middle := run bus first
      let final := run middle.1 second
      (final.1, middle.2 ++ final.2) := by
  induction bus, first using run.induct with
  | case1 bus => simp [run]
  | case2 bus label actions rest _ _ _ ih => simpa [run, Prod.ext_iff] using ih
  | case3 bus rest ih => simpa [run] using ih
  | case4 bus path actions rest ih => simpa [run] using ih
  | case5 bus path actions rest ih => simpa [run] using ih
  | case6 bus path callback actions rest ih => simpa [run] using ih
  | case7 bus token callback actions rest changed ih => simpa [run, changed] using ih
  | case8 bus token callback actions rest unchanged ih => simpa [run, unchanged] using ih

theorem run_before (bus : Bus Label) (operation : Operation Label) (rest : Actions Label) :
    run bus [.follow (operation.before rest)] =
      let first := bus.perform operation
      let later := run first.1 [.follow rest]
      (later.1, first.2 ++ later.2) := by
  cases operation with
  | ask path => simp [Operation.before, Bus.perform, run]
  | register token callback =>
      by_cases changed : bus.hasChanged token = true
      · have worked := run_append bus [.call callback] [.follow rest]
        simpa [Operation.before, Bus.perform, Bus.register, run, changed] using worked
      · simp [Operation.before, Bus.perform, Bus.register, run, changed]
  | signal path =>
      simp [Operation.before, Bus.perform, Bus.signal, run, run_append]

theorem performAll_eq_run (bus : Bus Label) (operations : List (Operation Label)) :
    bus.performAll operations = run bus [.follow (program operations)] := by
  induction operations generalizing bus with
  | nil => simp [Bus.performAll, program, run]
  | cons operation rest ih => rw [program, run_before, Bus.performAll, ih]

theorem performAll_eq_record (bus : Bus Label) (operations : List (Operation Label)) :
    bus.performAll operations = ((record bus [.follow (program operations)]).1,
      ranLabels (history bus operations)) := by
  rw [performAll_eq_run]
  exact run_eq_record bus [.follow (program operations)]

/-- Each callback is delivered once, where it belongs; `bus` is what the events lead to. -/
structure ExactDelivery (events : List (Event Label)) (bus : Bus Label) : Prop where
  once : (ranLabels events).Nodup
  late : ∀ before label token after, events = before ++ .registered label token :: after →
    .fired token ∈ before → ∃ rest, after = .ran label none :: rest
  /-- On a token that has not, it runs within the first later signal of the token's own path. -/
  waiting : ∀ before label token after, events = before ++ .registered label token :: after →
    .handed token ∈ before → .fired token ∉ before →
    (Quiet token.path after ∧ label ∉ ranLabels events) ∨
    ∃ early inner rest late, after = early ++ .fired token ::
        (inner ++ .ran label (some token) :: rest) ++ .settled token :: late ∧
      Quiet token.path early ∧ .settled token ∉ inner ++ .ran label (some token) :: rest
  pending : ∀ label token, bus.Waits label token ↔
    .registered label token ∈ events ∧ label ∉ ranLabels events
  single : bus.waiting.Nodup
  unfired : ∀ token, bus.Live token → .fired token ∉ events
  apart : ∀ first second, bus.Live first → bus.Live second →
    (first.path = second.path ↔ first.id = second.id)
  /-- No earlier generation was told from the live token less than by its id. -/
  fresh : ∀ before earlier after, events = before ++ .fired earlier :: after →
    ∀ token, bus.Live token → token.id ≠ earlier.id ∧
      (token.path = earlier.path → .handed token ∉ before)

section Cuts

variable {start : Bus Label} {jobs : List (Job Label)} {before after : List (Event Label)}
  {label : Label} {token : Token}

theorem ran_of_registered_late (new : start.slots = [])
    (split : (record start jobs).2 = before ++ .registered label token :: after)
    (fired : .fired token ∈ before) : ∃ rest, after = .ran label none :: rest := by
  obtain ⟨past, later, job, rest, early, late, reached, moved, rfl, rfl⟩ :=
    record_split start jobs split
  have ledger := (ledger_new new).reaches reached
  have registered : .registered label token ∈ (advance later job).events := by simp [moved]
  have spent : (advance later job).bus.Spent token := by
    refine (ledger.advance job).fired token ?_
    rw [moved, List.nil_append, ← List.append_assoc]
    exact List.mem_append_left _ fired
  obtain rfl := eq_nil_of_registered moved
  rcases registered_cases ledger.sound registered with ⟨_, inner, actions, same⟩ |
    ⟨slot, member, live, _⟩
  · refine ⟨(record later (.follow inner :: .follow actions :: rest)).2, ?_⟩
    rw [same]
    simp [record, advance]
  · exact absurd ⟨slot, member, live⟩ spent.not_live

theorem waits_of_registered (new : start.slots = [])
    (split : (record start jobs).2 = before ++ .registered label token :: after)
    (handed : .handed token ∈ before) (unfired : .fired token ∉ before) :
    (Quiet token.path after ∧ (record start jobs).1.Waits label token) ∨
    ∃ early inner rest late, after = early ++ .fired token ::
        (inner ++ .ran label (some token) :: rest) ++ .settled token :: late ∧
      Quiet token.path early ∧ .settled token ∉ inner ++ .ran label (some token) :: rest :=
  (ledger_new new).waits_of_registered split handed unfired

theorem fresh_of_fired (new : start.slots = []) {earlier : Token}
    (split : (record start jobs).2 = before ++ .fired earlier :: after)
    (live : (record start jobs).1.Live token) :
    token.id ≠ earlier.id ∧ (token.path = earlier.path → .handed token ∉ before) := by
  have final := (ledger_new new).reaches (reaches_record start jobs)
  rw [List.nil_append] at final
  have spent := final.fired earlier (by simp [split])
  refine ⟨?_, ?_⟩
  · obtain ⟨slot, member, rfl⟩ := live
    exact spent.2 slot member
  · intro samePath handed
    obtain ⟨past, later, job, rest, early, late, reached, moved, rfl, rfl⟩ :=
      record_split start jobs split
    have ledger := (ledger_new new).reaches reached
    rw [List.nil_append] at ledger
    have unfired : .fired token ∉ (record start jobs).2 := fun fired =>
      (final.fired token fired).not_live live
    have firing : .fired earlier ∈ (advance later job).events := by simp [moved]
    obtain rfl := eq_nil_of_fired moved
    rw [List.append_nil] at handed split
    rcases ledger.handed token handed with ⟨slot, member, rfl⟩ | fired
    · obtain ⟨other, otherMem, rfl⟩ := (spent_of_fired ledger.sound firing).1
      obtain rfl := ledger.sound.eq_of_path member otherMem samePath
      exact unfired (by simp [split])
    · exact unfired (by simp [split, fired])

end Cuts

variable [DecidableEq Label]

/-- Operations in any order, with callbacks that signal and register while they run, deliver every
callback exactly once. -/
theorem delivered_exactly_once (firstId : Nat) (operations : List (Operation Label))
    (distinct : (program operations).labels.Nodup) :
    let start : Bus Label := ⟨[], firstId⟩
    (start.performAll operations).2 = ranLabels (history start operations) ∧
      ExactDelivery (history start operations) (start.performAll operations).1 := by
  intro start
  rw [performAll_eq_record]
  refine ⟨rfl, ?_⟩
  have new : start.slots = [] := rfl
  have separate : Distinct start [.follow (program operations)] := by
    intro label
    have single := List.nodup_iff_count_le_one.mp distinct label
    simpa [Bus.labels, slotLabels, Job.labels, start] using single
  have ledger := (ledger_new new).reaches (reaches_record start [.follow (program operations)])
  have booked := (booked_new new [.follow (program operations)]).record (ledger_new new).sound
  rw [List.nil_append] at ledger booked
  have idle : ∀ label token, (record start [.follow (program operations)]).1.Waits label token →
      label ∉ ranLabels (history start operations) := by
    rintro label token ⟨slot, member, _, callback, waits, rfl⟩
    exact separate.notMem_ran_of_waiting member waits
  refine ⟨separate.ran_nodup, ?late, ?waiting, ?pending, separate.waiting_nodup, ?unfired, ?apart, ?fresh⟩
  case late =>
    intro before label token after split fired
    exact ran_of_registered_late new split fired
  case waiting =>
    intro before label token after split handed unfired
    rcases waits_of_registered new split handed unfired with ⟨quiet, waits⟩ | fires
    · exact Or.inl ⟨quiet, idle label token waits⟩
    · exact Or.inr fires
  case pending =>
    intro label token
    constructor
    · intro waits
      exact ⟨booked.waiting label token waits, idle label token waits⟩
    · rintro ⟨registered, idle⟩
      rcases booked.kept label token registered with waits | ⟨_, _, called⟩ | ran
      · exact waits
      · simp at called
      · exact absurd ran idle
  case unfired =>
    intro token live fired
    exact (ledger.fired token fired).not_live live
  case apart =>
    rintro first second ⟨slot, member, rfl⟩ ⟨other, otherMem, rfl⟩
    constructor
    · intro same
      rw [ledger.sound.eq_of_path member otherMem same]
    · intro same
      rw [ledger.sound.ids slot member other otherMem same]
  case fresh =>
    intro before earlier after split token live
    exact fresh_of_fired new split live

/-- A callback that signals its own path while that is fired, registers on the token that took its
place and on the one that is firing, and leaves one callback waiting. -/
def nested : List (Operation Nat) :=
  [.ask "page", .register ⟨"page", 0⟩ (.mk 1 (.signal "page" (.register "page" (.mk 2 .done)
    (.registerOn ⟨"page", 0⟩ (.mk 3 .done) .done)))), .signal "page"]

theorem delivered_exactly_once_nested : (program nested).labels.Nodup ∧
    ExactDelivery (history ⟨[], 0⟩ nested) ((⟨[], 0⟩ : Bus Nat).performAll nested).1 :=
  ⟨by decide, (delivered_exactly_once 0 nested (by decide)).2⟩

example : ((⟨[], 0⟩ : Bus Nat).performAll nested).2 = [1, 3] := by cbv

end LiveViews.Signal
