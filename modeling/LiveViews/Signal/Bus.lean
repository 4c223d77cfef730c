/-!
Notification of changes. Each path has one live token; a callback waits on a token until the path is
signalled, which fires the token and puts a fresh one in its place. A callback has an effect of its
own and may go on to signal paths and to register further callbacks.

Main functions: `Bus.token`, `Bus.register`, `Bus.signal`. The effects of the callbacks that ran come
back in the order in which they ran.
-/

namespace LiveViews.Signal

/-- One generation of a path. -/
structure Token where
  path : String
  id : Nat
  deriving DecidableEq

mutual
inductive Callback (Effect : Type) where
  | mk (effect : Effect) (actions : Actions Effect)

inductive Actions (Effect : Type) where
  | done
  | ask (path : String) (rest : Actions Effect)
  | signal (path : String) (rest : Actions Effect)
  | register (path : String) (callback : Callback Effect) (rest : Actions Effect)
  /-- Registers a callback on a token, which may have fired already. -/
  | registerOn (token : Token) (callback : Callback Effect) (rest : Actions Effect)
end

variable {Effect : Type}

mutual
/-- Steps that a callback can take at most, those of the callbacks it registers included. -/
def Callback.weight : Callback Effect → Nat
  | .mk _ actions => actions.weight + 2

def Actions.weight : Actions Effect → Nat
  | .done => 0
  | .ask _ rest => rest.weight + 1
  | .signal _ rest => rest.weight + 1
  | .register _ callback rest => callback.weight + rest.weight + 1
  | .registerOn _ callback rest => callback.weight + rest.weight + 1
end

/-- The live token of a path and the callbacks that wait on it, in the order of registration. -/
structure Slot (Effect : Type) where
  token : Token
  waiters : List (Callback Effect)

structure Bus (Effect : Type) where
  slots : List (Slot Effect) := []
  nextId : Nat := 0

def weightOf : List (Callback Effect) → Nat
  | [] => 0
  | callback :: rest => callback.weight + weightOf rest

def slotsWeight : List (Slot Effect) → Nat
  | [] => 0
  | slot :: rest => weightOf slot.waiters + slotsWeight rest

def addWaiter (path : String) (callback : Callback Effect) : List (Slot Effect) → List (Slot Effect)
  | [] => []
  | slot :: rest =>
    if slot.token.path = path then
      { slot with waiters := slot.waiters ++ [callback] } :: rest
    else slot :: addWaiter path callback rest

def renewSlot (token : Token) : List (Slot Effect) → List (Slot Effect)
  | [] => []
  | slot :: rest =>
    if slot.token.path = token.path then ⟨token, []⟩ :: rest else slot :: renewSlot token rest

namespace Bus

def slot? (bus : Bus Effect) (path : String) : Option (Slot Effect) :=
  bus.slots.find? fun slot => slot.token.path = path

def size (bus : Bus Effect) : Nat :=
  bus.slots.length

/-- The live token of a path, made when it is first asked for. -/
def token (bus : Bus Effect) (path : String) : Token × Bus Effect :=
  match bus.slot? path with
  | some slot => (slot.token, bus)
  | none =>
    let token : Token := ⟨path, bus.nextId⟩
    (token, ⟨bus.slots ++ [⟨token, []⟩], bus.nextId + 1⟩)

/-- Whether a token has fired: it is no longer the live one of its path. -/
def hasChanged (bus : Bus Effect) (token : Token) : Bool :=
  (bus.slot? token.path).all fun slot => slot.token ≠ token

def wait (bus : Bus Effect) (path : String) (callback : Callback Effect) : Bus Effect :=
  let bus := (bus.token path).2
  { bus with slots := addWaiter path callback bus.slots }

def fire (bus : Bus Effect) (path : String) : List (Callback Effect) × Bus Effect :=
  match bus.slot? path with
  | some slot =>
    (slot.waiters, ⟨renewSlot ⟨path, bus.nextId⟩ bus.slots, bus.nextId + 1⟩)
  | none => ([], bus)

end Bus

inductive Task (Effect : Type) where
  | call (callback : Callback Effect)
  | follow (actions : Actions Effect)

def Task.weight : Task Effect → Nat
  | .call callback => callback.weight
  | .follow actions => actions.weight + 1

def tasksWeight : List (Task Effect) → Nat
  | [] => 0
  | task :: rest => task.weight + tasksWeight rest

theorem weightOf_append (first second : List (Callback Effect)) :
    weightOf (first ++ second) = weightOf first + weightOf second := by
  induction first with
  | nil => simp [weightOf]
  | cons callback rest ih =>
    simp only [List.cons_append, weightOf, ih]
    omega

theorem slotsWeight_append (first second : List (Slot Effect)) :
    slotsWeight (first ++ second) = slotsWeight first + slotsWeight second := by
  induction first with
  | nil => simp [slotsWeight]
  | cons slot rest ih =>
    simp only [List.cons_append, slotsWeight, ih]
    omega

theorem slotsWeight_addWaiter (path : String) (callback : Callback Effect)
    (slots : List (Slot Effect)) :
    slotsWeight (addWaiter path callback slots) ≤ slotsWeight slots + callback.weight := by
  induction slots with
  | nil => simp [addWaiter, slotsWeight]
  | cons slot rest ih =>
    simp only [addWaiter]
    split
    · simp only [slotsWeight, weightOf_append, weightOf]
      omega
    · simp only [slotsWeight]
      omega

theorem slotsWeight_token (bus : Bus Effect) (path : String) :
    slotsWeight (bus.token path).2.slots = slotsWeight bus.slots := by
  unfold Bus.token
  split <;> simp [slotsWeight_append, slotsWeight, weightOf]

theorem slotsWeight_wait (bus : Bus Effect) (path : String) (callback : Callback Effect) :
    slotsWeight (bus.wait path callback).slots ≤ slotsWeight bus.slots + callback.weight := by
  have added := slotsWeight_addWaiter path callback (bus.token path).2.slots
  rw [slotsWeight_token] at added
  exact added

theorem slotsWeight_renewSlot (token : Token) (slots : List (Slot Effect)) (slot : Slot Effect)
    (found : slots.find? (fun slot => slot.token.path = token.path) = some slot) :
    slotsWeight (renewSlot token slots) + weightOf slot.waiters = slotsWeight slots := by
  induction slots with
  | nil => simp at found
  | cons first rest ih =>
    simp only [renewSlot]
    by_cases same : first.token.path = token.path
    · simp only [List.find?_cons, same, decide_true, Option.some.injEq] at found
      subst found
      simp only [same, if_true, slotsWeight, weightOf]
      omega
    · simp only [List.find?_cons, same, decide_false] at found
      have := ih found
      simp only [same, if_false, slotsWeight] at this ⊢
      omega

theorem slotsWeight_fire (bus : Bus Effect) (path : String) :
    slotsWeight (bus.fire path).2.slots + weightOf (bus.fire path).1 = slotsWeight bus.slots := by
  unfold Bus.fire
  split
  · rename_i slot found
    exact slotsWeight_renewSlot ⟨path, bus.nextId⟩ bus.slots slot found
  · simp [weightOf]

theorem tasksWeight_calls (callbacks : List (Callback Effect)) :
    tasksWeight (callbacks.map Task.call) = weightOf callbacks := by
  induction callbacks with
  | nil => rfl
  | cons callback rest ih => simp [tasksWeight, weightOf, Task.weight, ih]

theorem tasksWeight_append (first second : List (Task Effect)) :
    tasksWeight (first ++ second) = tasksWeight first + tasksWeight second := by
  induction first with
  | nil => simp [tasksWeight]
  | cons task rest ih =>
    simp only [List.cons_append, tasksWeight, ih]
    omega

/-- Works off the tasks in order, each to its end before the next. -/
def run (bus : Bus Effect) : List (Task Effect) → Bus Effect × List Effect
  | [] => (bus, [])
  | .call (.mk effect actions) :: rest =>
    let (bus, effects) := run bus (.follow actions :: rest)
    (bus, effect :: effects)
  | .follow .done :: rest => run bus rest
  | .follow (.ask path actions) :: rest => run (bus.token path).2 (.follow actions :: rest)
  | .follow (.signal path actions) :: rest =>
    run (bus.fire path).2 ((bus.fire path).1.map Task.call ++ .follow actions :: rest)
  | .follow (.register path callback actions) :: rest =>
    run (bus.wait path callback) (.follow actions :: rest)
  | .follow (.registerOn token callback actions) :: rest =>
    if bus.hasChanged token then run bus (.call callback :: .follow actions :: rest)
    else run (bus.wait token.path callback) (.follow actions :: rest)
  termination_by tasks => slotsWeight bus.slots + tasksWeight tasks
  decreasing_by
    · simp only [tasksWeight, Task.weight, Callback.weight]
      omega
    · simp only [tasksWeight, Task.weight]
      omega
    · rw [slotsWeight_token]
      simp only [tasksWeight, Task.weight, Actions.weight]
      omega
    · have fired := slotsWeight_fire bus path
      rw [tasksWeight_append, tasksWeight_calls]
      simp only [tasksWeight, Task.weight, Actions.weight]
      omega
    · have added := slotsWeight_wait bus path callback
      simp only [tasksWeight, Task.weight, Actions.weight]
      omega
    · simp only [tasksWeight, Task.weight, Actions.weight]
      omega
    · have added := slotsWeight_wait bus token.path callback
      simp only [tasksWeight, Task.weight, Actions.weight]
      omega

structure Answer (Effect : Type) where
  count : Nat
  bus : Bus Effect
  effects : List Effect

namespace Bus

def signal (bus : Bus Effect) (path : String) : Answer Effect :=
  let (waiters, fired) := bus.fire path
  let (after, effects) := run fired (waiters.map Task.call)
  ⟨waiters.length, after, effects⟩

def register (bus : Bus Effect) (token : Token) (callback : Callback Effect) : Answer Effect :=
  if bus.hasChanged token then
    let (after, effects) := run bus [.call callback]
    ⟨1, after, effects⟩
  else ⟨0, bus.wait token.path callback, []⟩

end Bus

end LiveViews.Signal
