import LiveViews.Proofs.Signal.History

/-!
Accounting for callbacks. Every callback that a run starts with, inner ones included, has run in the
end or is still held by the bus: no callback is lost and none is doubled (`record_count`).
-/

namespace LiveViews.Signal

variable {Label : Type}

mutual
def Callback.labels : Callback Label → List Label
  | .mk label actions => label :: actions.labels

def Actions.labels : Actions Label → List Label
  | .done => []
  | .ask _ rest => rest.labels
  | .signal _ rest => rest.labels
  | .register _ callback rest => callback.labels ++ rest.labels
  | .registerOn _ callback rest => callback.labels ++ rest.labels
end

def Job.labels : Job Label → List Label
  | .call callback _ => callback.labels
  | .follow actions => actions.labels
  | .settle _ => []

def jobLabels (jobs : List (Job Label)) : List Label :=
  jobs.flatMap Job.labels

def slotLabels (slots : List (Slot Label)) : List Label :=
  slots.flatMap fun slot => slot.waiters.flatMap Callback.labels

def Bus.labels (bus : Bus Label) : List Label :=
  slotLabels bus.slots

@[simp] theorem jobLabels_nil : jobLabels ([] : List (Job Label)) = [] := rfl

@[simp] theorem jobLabels_cons (job : Job Label) (rest : List (Job Label)) :
    jobLabels (job :: rest) = job.labels ++ jobLabels rest := by
  simp [jobLabels]

@[simp] theorem jobLabels_append (first second : List (Job Label)) :
    jobLabels (first ++ second) = jobLabels first ++ jobLabels second := by
  simp [jobLabels]

theorem jobLabels_callsOf (token : Token) (callbacks : List (Callback Label)) :
    jobLabels (callsOf token callbacks) = callbacks.flatMap Callback.labels := by
  simp [jobLabels, callsOf, List.flatMap_map, Job.labels]

theorem effect_mem_labels (callback : Callback Label) : callback.effect ∈ callback.labels := by
  cases callback
  simp [Callback.effect, Callback.labels]

theorem effect_mem_busLabels {bus : Bus Label} {slot : Slot Label} {callback : Callback Label}
    (member : slot ∈ bus.slots) (waits : callback ∈ slot.waiters) :
    callback.effect ∈ bus.labels :=
  List.mem_flatMap.mpr ⟨slot, member,
    List.mem_flatMap.mpr ⟨callback, waits, effect_mem_labels callback⟩⟩

def Bus.waiting (bus : Bus Label) : List Label :=
  bus.slots.flatMap fun slot => slot.waiters.map Callback.effect

theorem map_effect_sublist (callbacks : List (Callback Label)) :
    (callbacks.map Callback.effect).Sublist (callbacks.flatMap Callback.labels) := by
  induction callbacks with
  | nil => exact List.Sublist.slnil
  | cons callback rest ih =>
      obtain ⟨label, actions⟩ := callback
      rw [List.map_cons, List.flatMap_cons, Callback.labels, List.cons_append]
      exact (ih.trans (List.sublist_append_right _ _)).cons_cons _

theorem Bus.waiting_sublist_labels (bus : Bus Label) : bus.waiting.Sublist bus.labels := by
  unfold Bus.waiting Bus.labels slotLabels
  induction bus.slots with
  | nil => exact List.Sublist.slnil
  | cons slot rest ih =>
      rw [List.flatMap_cons, List.flatMap_cons]
      exact (map_effect_sublist slot.waiters).append ih

theorem token_labels (bus : Bus Label) (path : String) :
    (bus.token path).2.labels = bus.labels := by
  rcases bus.token_cases path with ⟨_, _, answer⟩ | ⟨_, answer⟩
  · rw [answer]
  · rw [answer]
    simp [Bus.labels, slotLabels]

variable [DecidableEq Label]

theorem addWaiter_count (path : String) (callback : Callback Label) (slots : List (Slot Label))
    (known : path ∈ pathsOf slots) (label : Label) :
    (slotLabels (addWaiter path callback slots)).count label =
      (slotLabels slots).count label + callback.labels.count label := by
  induction slots with
  | nil => simp [pathsOf] at known
  | cons slot rest ih =>
      by_cases same : slot.token.path = path
      · simp only [addWaiter, same, if_true, slotLabels, List.flatMap_cons, List.count_append,
          List.flatMap_append, List.flatMap_nil]
        simp only [List.count_nil]
        omega
      · have later : path ∈ pathsOf rest := by
          simpa [pathsOf, Ne.symm same] using known
        have counted := ih later
        simp only [slotLabels] at counted
        simp only [addWaiter, same, if_false, slotLabels, List.flatMap_cons, List.count_append,
          counted]
        omega

theorem renewSlot_count (token : Token) (slots : List (Slot Label)) (slot : Slot Label)
    (found : slots.find? (fun slot => slot.token.path = token.path) = some slot) (label : Label) :
    (slotLabels (renewSlot token slots)).count label +
        (slot.waiters.flatMap Callback.labels).count label =
      (slotLabels slots).count label := by
  induction slots with
  | nil => simp at found
  | cons first rest ih =>
      by_cases same : first.token.path = token.path
      · simp only [List.find?_cons, same, decide_true, Option.some.injEq] at found
        subst found
        simp only [renewSlot, same, if_true, slotLabels, List.flatMap_cons, List.count_append,
          List.flatMap_nil, List.count_nil]
        omega
      · simp only [List.find?_cons, same, decide_false] at found
        have counted := ih found
        simp only [slotLabels] at counted
        simp only [renewSlot, same, if_false, slotLabels, List.flatMap_cons, List.count_append]
        omega

theorem wait_count (bus : Bus Label) (path : String) (callback : Callback Label) (label : Label) :
    (bus.wait path callback).labels.count label =
      bus.labels.count label + callback.labels.count label := by
  have known : path ∈ pathsOf (bus.token path).2.slots := by
    obtain ⟨slot, member, same⟩ := bus.live_token path
    exact List.mem_map.mpr ⟨slot, member, by rw [same, bus.token_path]⟩
  have added := addWaiter_count path callback _ known label
  rw [← token_labels bus path]
  exact added

/-- One move keeps every label: what it runs goes from the jobs or the bus to the events. -/
theorem advance_count (bus : Bus Label) (job : Job Label) (label : Label) :
    (ranLabels (advance bus job).events).count label +
        (jobLabels (advance bus job).jobs).count label + (advance bus job).bus.labels.count label =
      job.labels.count label + bus.labels.count label := by
  match job with
  | .call (.mk own actions) _ =>
      simp only [advance, ranLabels_cons, Event.ranLabel?, Option.toList, ranLabels_nil,
        List.append_nil, jobLabels_cons, jobLabels_nil, Job.labels, Callback.labels,
        List.count_cons, List.count_nil]
      omega
  | .settle _ =>
      simp [advance, ranLabels_cons, Event.ranLabel?, Job.labels]
  | .follow .done =>
      simp [advance, Job.labels, Actions.labels]
  | .follow (.ask path _) =>
      simp [advance, ranLabels_cons, Event.ranLabel?, Job.labels, Actions.labels, token_labels]
  | .follow (.signal path _) =>
      simp only [advance]
      cases found : bus.slot? path with
      | none => simp [ranLabels_cons, Event.ranLabel?, Job.labels, Actions.labels]
      | some slot =>
          have renewed := renewSlot_count ⟨path, bus.nextId⟩ bus.slots slot found label
          simp only [ranLabels_cons, Event.ranLabel?, Option.toList, ranLabels_nil, List.append_nil,
            List.count_nil, jobLabels_append, jobLabels_callsOf, jobLabels_cons, jobLabels_nil,
            Job.labels, Actions.labels, List.nil_append, List.count_append, Bus.fire, found,
            Bus.labels]
          omega
  | .follow (.register path (.mk own inner) _) =>
      have waiting := wait_count bus path (.mk own inner) label
      simp only [advance, ranLabels_cons, Event.ranLabel?, Option.toList, ranLabels_nil,
        List.append_nil, List.count_nil, jobLabels_cons, jobLabels_nil, Job.labels, Actions.labels,
        List.count_append, waiting]
      omega
  | .follow (.registerOn token (.mk own inner) _) =>
      have waiting := wait_count bus token.path (.mk own inner) label
      simp only [advance]
      split
      · simp only [ranLabels_cons, Event.ranLabel?, Option.toList, ranLabels_nil, List.append_nil,
          List.count_nil, jobLabels_cons, jobLabels_nil, Job.labels, Actions.labels,
          List.count_append]
        omega
      · simp only [ranLabels_cons, Event.ranLabel?, Option.toList, ranLabels_nil, List.append_nil,
          List.count_nil, jobLabels_cons, jobLabels_nil, Job.labels, Actions.labels,
          List.count_append, waiting]
        omega

theorem record_count (bus : Bus Label) (jobs : List (Job Label)) (label : Label) :
    (ranLabels (record bus jobs).2).count label + (record bus jobs).1.labels.count label =
      (jobLabels jobs).count label + bus.labels.count label := by
  induction bus, jobs using record.induct with
  | case1 bus => simp [record]
  | case2 bus job rest ih =>
      have moved := advance_count bus job label
      simp only [record, ranLabels_append, jobLabels_append, jobLabels_cons, List.count_append]
        at ih ⊢
      omega

def Distinct (bus : Bus Label) (jobs : List (Job Label)) : Prop :=
  ∀ label, (jobLabels jobs).count label + bus.labels.count label ≤ 1

theorem Distinct.advance {bus : Bus Label} {job : Job Label} {rest : List (Job Label)}
    (distinct : Distinct bus (job :: rest)) :
    Distinct (advance bus job).bus ((advance bus job).jobs ++ rest) := by
  intro label
  have moved := advance_count bus job label
  have before := distinct label
  simp only [jobLabels_append, jobLabels_cons, List.count_append] at before ⊢
  omega

theorem Distinct.ran_nodup {bus : Bus Label} {jobs : List (Job Label)}
    (distinct : Distinct bus jobs) : (ranLabels (record bus jobs).2).Nodup := by
  rw [List.nodup_iff_count_le_one]
  intro label
  have counted := record_count bus jobs label
  have before := distinct label
  omega

theorem Distinct.notMem_ran_of_waiting {bus : Bus Label} {jobs : List (Job Label)}
    (distinct : Distinct bus jobs) {slot : Slot Label} {callback : Callback Label}
    (member : slot ∈ (record bus jobs).1.slots) (waits : callback ∈ slot.waiters) :
    callback.effect ∉ ranLabels (record bus jobs).2 := by
  intro ran
  have held := List.count_pos_iff.mpr (effect_mem_busLabels member waits)
  have done := List.count_pos_iff.mpr ran
  have counted := record_count bus jobs callback.effect
  have before := distinct callback.effect
  omega

theorem Distinct.waiting_nodup {bus : Bus Label} {jobs : List (Job Label)}
    (distinct : Distinct bus jobs) : (record bus jobs).1.waiting.Nodup := by
  refine List.Nodup.sublist (Bus.waiting_sublist_labels _) (List.nodup_iff_count_le_one.mpr ?_)
  intro label
  have counted := record_count bus jobs label
  have before := distinct label
  omega

end LiveViews.Signal
