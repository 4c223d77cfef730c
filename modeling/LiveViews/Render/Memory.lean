import LiveViews.Liquid.Template

/-!
What the widget directives of a template remember: the content they last rendered, its compiled
form, and what the directives of that form remember in turn.
-/

namespace LiveViews

open LiveViews.Liquid

inductive Memory where
  | empty
  | remember (index : Nat) (content : String) (template : Template) (inner rest : Memory)

structure Remembered where
  content : String
  template : Template
  inner : Memory

namespace Memory

def get? : Memory → Nat → Option Remembered
  | .empty, _ => none
  | .remember index content template inner rest, wanted =>
    if index = wanted then some ⟨content, template, inner⟩ else rest.get? wanted

def set (memory : Memory) (wanted : Nat) (entry : Remembered) : Memory :=
  match memory with
  | .empty => .remember wanted entry.content entry.template entry.inner .empty
  | .remember index content template inner rest =>
    if index = wanted then .remember wanted entry.content entry.template entry.inner rest
    else .remember index content template inner (rest.set wanted entry)

end Memory

end LiveViews
