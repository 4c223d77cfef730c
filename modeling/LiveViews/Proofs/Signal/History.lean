import LiveViews.Proofs.Signal.Slots

/-!
The history of a bus: everything that happens on it, in order. Callbacks are told apart by labels.

Working off tasks is done here one move at a time, with a mark for the end of each firing.
`run_eq_record` says that the bus it ends with and the callbacks that ran are those of `run`.
A callback's actions are the ones it takes in the run at hand.
-/

namespace LiveViews.Signal

variable {Label : Type}

inductive Event (Label : Type) where
  | handed (token : Token)
  | registered (label : Label) (token : Token)
  | ignored (path : String)
  | fired (token : Token)
  /-- A callback ran: `source` fired, or it was registered on a token that had fired before. -/
  | ran (label : Label) (source : Option Token)
  | settled (token : Token)
  deriving DecidableEq

def Event.ranLabel? : Event Label → Option Label
  | .ran label _ => some label
  | .handed _ | .registered _ _ | .ignored _ | .fired _ | .settled _ => none

def ranLabels (events : List (Event Label)) : List Label :=
  events.filterMap Event.ranLabel?

@[simp] theorem ranLabels_append (first second : List (Event Label)) :
    ranLabels (first ++ second) = ranLabels first ++ ranLabels second :=
  List.filterMap_append

@[simp] theorem ranLabels_nil : ranLabels ([] : List (Event Label)) = [] := rfl

theorem ranLabels_cons (event : Event Label) (rest : List (Event Label)) :
    ranLabels (event :: rest) = event.ranLabel?.toList ++ ranLabels rest := by
  cases found : event.ranLabel? <;> simp [ranLabels, found]

@[simp] theorem mem_ranLabels {events : List (Event Label)} {label : Label} :
    label ∈ ranLabels events ↔ ∃ source, .ran label source ∈ events := by
  simp only [ranLabels, List.mem_filterMap]
  constructor
  · rintro ⟨event, member, found⟩
    cases event <;> simp only [Event.ranLabel?, reduceCtorEq, Option.some.injEq] at found
    exact ⟨_, found ▸ member⟩
  · rintro ⟨source, member⟩
    exact ⟨_, member, rfl⟩

/-- What is still to be done: a task, or the mark behind the callbacks of a firing. -/
inductive Job (Label : Type) where
  | call (callback : Callback Label) (source : Option Token)
  | follow (actions : Actions Label)
  | settle (token : Token)

namespace Job

def task? : Job Label → Option (Task Label)
  | .call callback _ => some (.call callback)
  | .follow actions => some (.follow actions)
  | .settle _ => none

/-- Twice the weight of the task, so that a mark weighs less than the action that makes it. -/
def weight : Job Label → Nat
  | .call callback _ => 2 * callback.weight
  | .follow actions => 2 * (actions.weight + 1)
  | .settle _ => 1

end Job

def jobsWeight : List (Job Label) → Nat
  | [] => 0
  | job :: rest => job.weight + jobsWeight rest

theorem jobsWeight_append (first second : List (Job Label)) :
    jobsWeight (first ++ second) = jobsWeight first + jobsWeight second := by
  induction first with
  | nil => simp [jobsWeight]
  | cons job rest ih =>
      simp only [List.cons_append, jobsWeight, ih]
      omega

def callsOf (token : Token) (callbacks : List (Callback Label)) : List (Job Label) :=
  callbacks.map fun callback => .call callback (some token)

theorem jobsWeight_callsOf (token : Token) (callbacks : List (Callback Label)) :
    jobsWeight (callsOf token callbacks) = 2 * weightOf callbacks := by
  induction callbacks with
  | nil => rfl
  | cons callback rest ih =>
      simp only [callsOf, List.map_cons, jobsWeight, Job.weight, weightOf] at ih ⊢
      omega

structure Move (Label : Type) where
  events : List (Event Label)
  bus : Bus Label
  jobs : List (Job Label)

def advance (bus : Bus Label) : Job Label → Move Label
  | .call (.mk label actions) source => ⟨[.ran label source], bus, [.follow actions]⟩
  | .settle token => ⟨[.settled token], bus, []⟩
  | .follow .done => ⟨[], bus, []⟩
  | .follow (.ask path actions) =>
    ⟨[.handed (bus.token path).1], (bus.token path).2, [.follow actions]⟩
  | .follow (.signal path actions) =>
    match bus.slot? path with
    | none => ⟨[.ignored path], bus, [.follow actions]⟩
    | some slot =>
      ⟨[.fired slot.token], (bus.fire path).2,
        callsOf slot.token slot.waiters ++ [.settle slot.token, .follow actions]⟩
  | .follow (.register path (.mk label inner) actions) =>
    ⟨[.handed (bus.token path).1, .registered label (bus.token path).1],
      bus.wait path (.mk label inner), [.follow actions]⟩
  | .follow (.registerOn token (.mk label inner) actions) =>
    if bus.hasChanged token then
      ⟨[.registered label token], bus, [.call (.mk label inner) none, .follow actions]⟩
    else ⟨[.registered label token], bus.wait token.path (.mk label inner), [.follow actions]⟩

theorem advance_weight (bus : Bus Label) (job : Job Label) :
    2 * slotsWeight (advance bus job).bus.slots + jobsWeight (advance bus job).jobs <
      2 * slotsWeight bus.slots + job.weight := by
  match job with
  | .call (.mk _ _) _ =>
      simp only [advance, jobsWeight, Job.weight, Callback.weight]
      omega
  | .settle _ =>
      simp only [advance, jobsWeight, Job.weight]
      omega
  | .follow .done =>
      simp only [advance, jobsWeight, Job.weight]
      omega
  | .follow (.ask path _) =>
      have same := slotsWeight_token bus path
      simp only [advance, jobsWeight, Job.weight, Actions.weight]
      omega
  | .follow (.signal path _) =>
      simp only [advance]
      split
      · simp only [jobsWeight, Job.weight, Actions.weight]
        omega
      next slot found =>
        have fired := slotsWeight_fire bus path
        simp only [Bus.fire, found] at fired
        simp only [Bus.fire, found, jobsWeight_append, jobsWeight_callsOf, jobsWeight, Job.weight,
          Actions.weight]
        omega
  | .follow (.register path (.mk label inner) _) =>
      have added := slotsWeight_wait bus path (.mk label inner)
      simp only [advance, jobsWeight, Job.weight, Actions.weight]
      omega
  | .follow (.registerOn token (.mk label inner) _) =>
      have added := slotsWeight_wait bus token.path (.mk label inner)
      simp only [advance]
      split
      · simp only [jobsWeight, Job.weight, Actions.weight]
        omega
      · simp only [jobsWeight, Job.weight, Actions.weight]
        omega

/-- Works off the jobs in order: the bus in the end, and what happened. -/
def record (bus : Bus Label) : List (Job Label) → Bus Label × List (Event Label)
  | [] => (bus, [])
  | job :: rest =>
    let later := record (advance bus job).bus ((advance bus job).jobs ++ rest)
    (later.1, (advance bus job).events ++ later.2)
  termination_by jobs => 2 * slotsWeight bus.slots + jobsWeight jobs
  decreasing_by
    have lighter := advance_weight bus job
    rw [jobsWeight_append, jobsWeight]
    omega

def tasksOf (jobs : List (Job Label)) : List (Task Label) :=
  jobs.filterMap Job.task?

theorem tasksOf_callsOf (token : Token) (callbacks : List (Callback Label)) :
    tasksOf (callsOf token callbacks) = callbacks.map Task.call := by
  simp [tasksOf, callsOf, List.filterMap_map, Function.comp_def, Job.task?]

@[simp] theorem tasksOf_append (first second : List (Job Label)) :
    tasksOf (first ++ second) = tasksOf first ++ tasksOf second :=
  List.filterMap_append

@[simp] theorem tasksOf_call (callback : Callback Label) (source : Option Token)
    (rest : List (Job Label)) :
    tasksOf (.call callback source :: rest) = .call callback :: tasksOf rest :=
  rfl

@[simp] theorem tasksOf_follow (actions : Actions Label) (rest : List (Job Label)) :
    tasksOf (.follow actions :: rest) = .follow actions :: tasksOf rest :=
  rfl

@[simp] theorem tasksOf_settle (token : Token) (rest : List (Job Label)) :
    tasksOf (.settle token :: rest) = tasksOf rest :=
  rfl

/-- One move of the jobs is one step of the run of their tasks. -/
theorem run_advance (bus : Bus Label) (job : Job Label) (rest : List (Job Label)) :
    run bus (tasksOf (job :: rest)) =
      let later := run (advance bus job).bus (tasksOf ((advance bus job).jobs ++ rest))
      (later.1, ranLabels (advance bus job).events ++ later.2) := by
  match job with
  | .call (.mk _ _) _ => simp [run, advance, ranLabels_cons, Event.ranLabel?]
  | .settle _ => simp [advance, ranLabels_cons, Event.ranLabel?]
  | .follow .done => simp [run, advance]
  | .follow (.ask _ _) => simp [run, advance, ranLabels_cons, Event.ranLabel?]
  | .follow (.signal path actions) =>
      cases found : bus.slot? path with
      | none => simp [run, advance, found, Bus.fire, ranLabels_cons, Event.ranLabel?]
      | some slot =>
          simp [run, advance, found, Bus.fire, tasksOf_callsOf, ranLabels_cons,
            Event.ranLabel?]
  | .follow (.register _ (.mk _ _) _) => simp [run, advance, ranLabels_cons, Event.ranLabel?]
  | .follow (.registerOn token (.mk _ _) _) =>
      by_cases changed : bus.hasChanged token = true
      · simp [run, advance, changed, ranLabels_cons, Event.ranLabel?]
      · simp [run, advance, changed, ranLabels_cons, Event.ranLabel?]

theorem run_eq_record (bus : Bus Label) (jobs : List (Job Label)) :
    run bus (tasksOf jobs) = ((record bus jobs).1, ranLabels (record bus jobs).2) := by
  induction bus, jobs using record.induct with
  | case1 bus => simp [tasksOf, run, record]
  | case2 bus job rest ih =>
      rw [run_advance, ih, record]
      simp

theorem record_append (bus : Bus Label) (first second : List (Job Label)) :
    record bus (first ++ second) =
      let middle := record bus first
      let final := record middle.1 second
      (final.1, middle.2 ++ final.2) := by
  induction bus, first using record.induct with
  | case1 bus => simp [record]
  | case2 bus job rest ih =>
      rw [List.cons_append, record, ← List.append_assoc, ih]
      simp [record, List.append_assoc]

end LiveViews.Signal
