/-!
Services by kind: at most one of each.
-/

namespace LiveViews

/-- For each kind the service registered last, of the type that the kind has. -/
structure Registry {Kind : Type} (Service : Kind → Type) where
  entries : List (Sigma Service) := []

namespace Registry

variable {Kind : Type} [DecidableEq Kind] {Service : Kind → Type}

def insert (registry : Registry Service) (kind : Kind) (service : Service kind) :
    Registry Service :=
  ⟨⟨kind, service⟩ :: registry.entries.filter fun entry => entry.1 ≠ kind⟩

def find? (kind : Kind) : List (Sigma Service) → Option (Service kind)
  | [] => none
  | ⟨other, service⟩ :: rest => if same : other = kind then some (same ▸ service) else find? kind rest

def get? (registry : Registry Service) (kind : Kind) : Option (Service kind) :=
  find? kind registry.entries

theorem get?_insert (registry : Registry Service) (kind : Kind) (service : Service kind) :
    (registry.insert kind service).get? kind = some service := by
  rw [get?, insert, find?, dif_pos rfl]

def size (registry : Registry Service) : Nat :=
  registry.entries.length

def isEmpty (registry : Registry Service) : Bool :=
  registry.entries.isEmpty

end Registry

end LiveViews
