import LiveViews.Proofs.Signal.Moves

/-!
Delivery of notifications. Callbacks may signal and register while they run, on the path that is being
fired and on tokens that fired long ago; still each of them runs once, for the token it was registered
on (`delivered_exactly_once`).

What holds over a whole history is derived from what a move keeps. A history is cut where a callback
is registered: `Ledger` and `Booked` tell what the part before the cut says about the bus, and
`record_waiting` what the part behind it does with the callback.
-/

namespace LiveViews.Signal

variable {Label : Type}

inductive Reaches : Bus Label → List (Job Label) → List (Event Label) → Bus Label →
    List (Job Label) → Prop
  | here {bus jobs} : Reaches bus jobs [] bus jobs
  | move {bus job rest events later pending} :
      Reaches (advance bus job).bus ((advance bus job).jobs ++ rest) events later pending →
      Reaches bus (job :: rest) ((advance bus job).events ++ events) later pending

theorem reaches_record (bus : Bus Label) (jobs : List (Job Label)) :
    Reaches bus jobs (record bus jobs).2 (record bus jobs).1 [] := by
  induction bus, jobs using record.induct with
  | case1 bus =>
      rw [record]
      exact Reaches.here
  | case2 bus job rest ih =>
      rw [record]
      exact Reaches.move ih

theorem Reaches.record_eq {bus later : Bus Label} {jobs pending : List (Job Label)}
    {events : List (Event Label)} (path : Reaches bus jobs events later pending) :
    record bus jobs = ((record later pending).1, events ++ (record later pending).2) := by
  induction path with
  | here => simp
  | move _ ih => simp [record, ih]

/-- Where an event of a history comes from: a move, with the moves before it and after it. -/
theorem record_split (bus : Bus Label) (jobs : List (Job Label)) {before after : List (Event Label)}
    {event : Event Label} (split : (record bus jobs).2 = before ++ event :: after) :
    ∃ past later job rest early late, Reaches bus jobs past later (job :: rest) ∧
      (advance later job).events = early ++ event :: late ∧ before = past ++ early ∧
      after = late ++ (record (advance later job).bus ((advance later job).jobs ++ rest)).2 := by
  induction bus, jobs using record.induct generalizing before with
  | case1 bus => simp [record] at split
  | case2 bus job rest ih =>
      simp only [record] at split
      rcases List.append_eq_append_iff.mp split with ⟨early, beforeEq, laterEq⟩ |
        ⟨late, eventsEq, tailEq⟩
      · obtain ⟨past, later, next, others, start, finish, reached, moved, startEq, finishEq⟩ :=
          ih laterEq
        exact ⟨(advance bus job).events ++ past, later, next, others, start, finish,
          Reaches.move reached, moved, by rw [beforeEq, startEq, List.append_assoc], finishEq⟩
      · cases late with
        | nil =>
            simp only [List.nil_append, List.append_nil] at tailEq eventsEq
            have tailSplit : (record (advance bus job).bus ((advance bus job).jobs ++ rest)).2 =
                [] ++ event :: after := by simpa using tailEq.symm
            obtain ⟨past, later, next, others, start, finish, reached, moved, startEq, finishEq⟩ :=
              ih tailSplit
            obtain ⟨rfl, rfl⟩ : past = [] ∧ start = [] := by simpa using startEq.symm
            exact ⟨(advance bus job).events, later, next, others, [], finish,
              by simpa using Reaches.move reached, by simpa using moved, by simp [eventsEq],
              finishEq⟩
        | cons first late =>
            simp only [List.cons_append, List.cons.injEq] at tailEq
            obtain ⟨rfl, rfl⟩ := tailEq
            exact ⟨[], bus, job, rest, before, late, Reaches.here, eventsEq, rfl, rfl⟩

/-- What the past says about the tokens of the bus. -/
structure Ledger (past : List (Event Label)) (bus : Bus Label) : Prop where
  sound : bus.Sound
  handed : ∀ token, .handed token ∈ past → bus.Live token ∨ .fired token ∈ past
  fired : ∀ token, .fired token ∈ past → bus.Spent token

theorem Ledger.live_iff {past : List (Event Label)} {bus : Bus Label} (ledger : Ledger past bus)
    {token : Token} (handed : .handed token ∈ past) :
    bus.Live token ↔ .fired token ∉ past := by
  constructor
  · intro live fired
    exact (ledger.fired token fired).not_live live
  · intro unfired
    exact (ledger.handed token handed).resolve_right unfired

theorem Ledger.advance {past : List (Event Label)} {bus : Bus Label} (ledger : Ledger past bus)
    (job : Job Label) : Ledger (past ++ (advance bus job).events) (advance bus job).bus := by
  have sound := ledger.sound
  refine ⟨sound.advance job, ?_, ?_⟩
  · intro token handed
    rcases List.mem_append.mp handed with earlier | now
    · rcases ledger.handed token earlier with ⟨slot, member, rfl⟩ | fired
      · exact (live_advance sound member job).imp_right (List.mem_append_right _)
      · exact Or.inr (List.mem_append_left _ fired)
    · exact Or.inl (live_of_handed sound now)
  · intro token fired
    rcases List.mem_append.mp fired with earlier | now
    · exact (ledger.fired token earlier).advance sound job
    · exact (spent_of_fired sound now).2

theorem Ledger.reaches {past events : List (Event Label)} {bus later : Bus Label}
    {jobs pending : List (Job Label)} (ledger : Ledger past bus)
    (path : Reaches bus jobs events later pending) : Ledger (past ++ events) later := by
  induction path generalizing past with
  | here => simpa using ledger
  | move _ ih =>
      rw [← List.append_assoc]
      exact ih (ledger.advance _)

theorem ledger_new {bus : Bus Label} (new : bus.slots = []) : Ledger [] bus :=
  ⟨Bus.sound_of_slots_nil new, by simp, by simp⟩

theorem settled_notMem_record (token : Token) (bus : Bus Label) (jobs : List (Job Label))
    (sound : bus.Sound) (spent : bus.Spent token) (unmarked : .settle token ∉ jobs) :
    .settled token ∉ (record bus jobs).2 := by
  induction bus, jobs using record.induct with
  | case1 bus => simp [record]
  | case2 bus job rest ih =>
      simp only [List.mem_cons, not_or] at unmarked
      rw [record, List.mem_append, not_or]
      refine ⟨?_, ih (sound.advance job) (spent.advance sound job) ?_⟩
      · intro settled
        exact unmarked.1 (settle_of_settled settled)
      · intro marked
        rcases List.mem_append.mp marked with next | later
        · exact spent.not_live (live_of_settle next)
        · exact unmarked.2 later

theorem record_callsOf_cons (token : Token) (label : Label) (actions : Actions Label)
    (rest : List (Callback Label)) (bus : Bus Label) :
    record bus (callsOf token (.mk label actions :: rest)) =
      let turn := record bus [.follow actions]
      let later := record turn.1 (callsOf token rest)
      (later.1, .ran label (some token) :: (turn.2 ++ later.2)) := by
  rw [show callsOf token (.mk label actions :: rest) =
    .call (.mk label actions) (some token) :: callsOf token rest from rfl, record]
  simp only [advance, List.cons_append, List.nil_append]
  rw [show .follow actions :: callsOf token rest = [.follow actions] ++ callsOf token rest from rfl,
    record_append]

theorem ran_mem_record_callsOf (token : Token) {callback : Callback Label}
    (callbacks : List (Callback Label)) (member : callback ∈ callbacks) (bus : Bus Label) :
    .ran callback.effect (some token) ∈ (record bus (callsOf token callbacks)).2 := by
  induction callbacks generalizing bus with
  | nil => simp at member
  | cons first rest ih =>
      obtain ⟨label, actions⟩ := first
      rw [record_callsOf_cons]
      rcases List.mem_cons.mp member with rfl | later
      · exact List.mem_cons_self
      · exact List.mem_cons_of_mem _ (List.mem_append_right _ (ih later _))

theorem record_waiting (bus : Bus Label) (jobs : List (Job Label)) (sound : bus.Sound)
    {slot : Slot Label} {callback : Callback Label} (member : slot ∈ bus.slots)
    (waits : callback ∈ slot.waiters) :
    (Quiet slot.token.path (record bus jobs).2 ∧
      ∃ later ∈ (record bus jobs).1.slots, later.token = slot.token ∧ callback ∈ later.waiters) ∨
    ∃ early inner rest late, (record bus jobs).2 = early ++ .fired slot.token ::
        (inner ++ .ran callback.effect (some slot.token) :: rest) ++ .settled slot.token :: late ∧
      Quiet slot.token.path early ∧
      .settled slot.token ∉ inner ++ .ran callback.effect (some slot.token) :: rest := by
  induction bus, jobs using record.induct generalizing slot with
  | case1 bus => exact Or.inl ⟨by simp [record, Quiet], slot, by simpa [record] using member, rfl, waits⟩
  | case2 bus job rest ih =>
      rw [record]
      rcases keep_advance sound member job with ⟨later, laterMem, same, kept, quiet⟩ |
        ⟨actions, moved⟩
      · rcases ih (sound.advance job) laterMem (kept waits) with ⟨stillQuiet, final⟩ |
          ⟨early, inner, others, late, split, early_quiet, unsettled⟩
        · rw [same] at stillQuiet final
          refine Or.inl ⟨?_, final⟩
          intro event happened
          exact (List.mem_append.mp happened).elim (quiet event) (stillQuiet event)
        · rw [same] at split early_quiet unsettled
          refine Or.inr ⟨(advance bus job).events ++ early, inner, others, late, ?_, ?_, unsettled⟩
          · simp [split]
          · intro event happened
            exact (List.mem_append.mp happened).elim (quiet event) (early_quiet event)
      · have spent : (bus.fire slot.token.path).2.Spent slot.token := by
          have fired : Event.fired slot.token ∈ (advance bus job).events := by simp [moved]
          simpa [moved] using (spent_of_fired sound fired).2
        have firedSound : (bus.fire slot.token.path).2.Sound := sound.fire _
        obtain ⟨inner, others, ran⟩ := List.append_of_mem
          (ran_mem_record_callsOf slot.token slot.waiters waits (bus.fire slot.token.path).2)
        have unsettled := settled_notMem_record slot.token _
          (callsOf slot.token slot.waiters) firedSound spent (by simp [callsOf])
        refine Or.inr ⟨[], inner, others, (record (record (bus.fire slot.token.path).2
          (callsOf slot.token slot.waiters)).1 (.follow actions :: rest)).2, ?_, by simp [Quiet],
          ran ▸ unsettled⟩
        rw [moved]
        simp only [List.append_assoc, List.cons_append, List.nil_append, record_append, ran]
        rw [record]
        simp [advance]

theorem Ledger.waits_of_registered {past before after : List (Event Label)} {bus : Bus Label}
    {jobs : List (Job Label)} {label : Label} {token : Token} (ledger : Ledger past bus)
    (split : (record bus jobs).2 = before ++ .registered label token :: after)
    (handed : .handed token ∈ past ++ before) (unfired : .fired token ∉ past ++ before) :
    (Quiet token.path after ∧ (record bus jobs).1.Waits label token) ∨
    ∃ early inner rest late, after = early ++ .fired token ::
        (inner ++ .ran label (some token) :: rest) ++ .settled token :: late ∧
      Quiet token.path early ∧ .settled token ∉ inner ++ .ran label (some token) :: rest := by
  obtain ⟨events, later, job, rest, early, late, reached, moved, rfl, rfl⟩ :=
    record_split bus jobs split
  have reachedLedger := ledger.reaches reached
  have registered : .registered label token ∈ (Signal.advance later job).events := by simp [moved]
  obtain rfl := eq_nil_of_registered moved
  have live : (Signal.advance later job).bus.Live token := by
    refine ((reachedLedger.advance job).live_iff ?_).mpr ?_
    · rw [moved, List.append_assoc, ← List.append_assoc events, ← List.append_assoc]
      exact List.mem_append_left _ handed
    · rw [moved, List.append_assoc, ← List.append_assoc events, ← List.append_assoc]
      simpa using unfired
  have waits : (Signal.advance later job).bus.Waits label token := by
    rcases registered_cases reachedLedger.sound registered with ⟨dead, _, _, same⟩ | waits
    · rw [same] at live
      exact absurd live dead
    · exact waits
  obtain ⟨slot, member, rfl, callback, waits, rfl⟩ := waits
  rcases record_waiting _ ((Signal.advance later job).jobs ++ rest) (reachedLedger.sound.advance job) member
    waits with ⟨quiet, final, finalMem, same, waitsOn⟩ | fires
  · refine Or.inl ⟨quiet, final, ?_, same, callback, waitsOn, rfl⟩
    rw [reached.record_eq, record]
    exact finalMem
  · exact Or.inr fires

/-- What the past says about who waits: whoever waits was registered, and whoever was registered
waits, is about to be called, or has run. -/
structure Booked (past : List (Event Label)) (bus : Bus Label) (jobs : List (Job Label)) :
    Prop where
  waiting : ∀ label token, bus.Waits label token → .registered label token ∈ past
  kept : ∀ label token, .registered label token ∈ past → bus.Waits label token ∨
    (∃ inner source, .call (.mk label inner) source ∈ jobs) ∨ label ∈ ranLabels past

theorem Booked.advance {past : List (Event Label)} {bus : Bus Label} {job : Job Label}
    {rest : List (Job Label)} (booked : Booked past bus (job :: rest)) (sound : bus.Sound) :
    Booked (past ++ (advance bus job).events) (advance bus job).bus
      ((advance bus job).jobs ++ rest) := by
  constructor
  · rintro label token ⟨slot, member, rfl, callback, waits, rfl⟩
    rcases of_waiting_advance sound member waits with ⟨old, oldMem, same, waited⟩ | now
    · exact List.mem_append_left _ (booked.waiting _ _ ⟨old, oldMem, same, callback, waited, rfl⟩)
    · exact List.mem_append_right _ now
  · intro label token registered
    rw [ranLabels_append]
    rcases List.mem_append.mp registered with earlier | now
    · rcases booked.kept label token earlier with
        ⟨slot, member, rfl, callback, waits, rfl⟩ | ⟨inner, source, called⟩ | ran
      · rcases keep_advance sound member job with ⟨later, laterMem, same, kept, _⟩ | ⟨_, moved⟩
        · exact Or.inl ⟨later, laterMem, same, callback, kept waits, rfl⟩
        · obtain ⟨label, inner⟩ := callback
          refine Or.inr (Or.inl ⟨inner, some slot.token, ?_⟩)
          have called := List.mem_map_of_mem (f := fun each => Job.call each (some slot.token)) waits
          rw [moved]
          exact List.mem_append_left _ (List.mem_append_left _ called)
      · rcases List.mem_cons.mp called with rfl | later
        · exact Or.inr (Or.inr (by simp [Signal.advance]))
        · exact Or.inr (Or.inl ⟨inner, source, List.mem_append_right _ later⟩)
      · exact Or.inr (Or.inr (List.mem_append_left _ ran))
    · rcases registered_cases sound now with ⟨_, inner, actions, moved⟩ | waits
      · exact Or.inr (Or.inl ⟨inner, none, by simp [moved]⟩)
      · exact Or.inl waits

theorem Booked.record {past : List (Event Label)} {bus : Bus Label} {jobs : List (Job Label)}
    (booked : Booked past bus jobs) (sound : bus.Sound) :
    Booked (past ++ (record bus jobs).2) (record bus jobs).1 [] := by
  induction bus, jobs using record.induct generalizing past with
  | case1 bus => simpa [Signal.record] using booked
  | case2 bus job rest ih =>
      rw [Signal.record, ← List.append_assoc]
      exact ih (booked.advance sound) (sound.advance job)

theorem booked_new {bus : Bus Label} (new : bus.slots = []) (jobs : List (Job Label)) :
    Booked [] bus jobs := by
  constructor <;> simp [Bus.Waits, new]

end LiveViews.Signal
