import Bindery.Traced
/-!
# Runs

A step that may change files. What it has changed before a failure stays changed. Besides the files
a run carries a value of its generator's own.
-/
namespace Bindery

structure World (σ : Type) where
  tree : FileTree
  own : σ

def Run (σ α : Type) : Type := World σ → World σ × Traced α

namespace Run

protected def pure (a : α) : Run σ α := fun w => (w, pure a)

protected def bind (x : Run σ α) (f : α → Run σ β) : Run σ β := fun w =>
  match (x w).2.outcome with
  | .error failure => ((x w).1, ⟨(x w).2.events, .error failure⟩)
  | .ok a =>
    let after := f a (x w).1
    (after.1, ⟨(x w).2.events ++ after.2.events, after.2.outcome⟩)

instance : Monad (Run σ) where
  pure := Run.pure
  bind := Run.bind

/-- A step that only looks at the files. -/
def ask (f : FileTree → Traced α) : Run σ α := fun w => (w, f w.tree)

def ofExcept (outcome : Except Failure α) : Run σ α := fun w => (w, .ofExcept outcome)

def note (event : Event) : Run σ Unit := fun w => (w, .note event)

/-- Change the files; `explain` says what a fault means for the run. -/
def change (explain : ε → Failure) (f : FileTree → FileTree × Except ε α) : Run σ α := fun w =>
  let changed := f w.tree
  ({ w with tree := changed.1 }, .ofExcept (changed.2.mapError explain))

/-- Give a failure another meaning. -/
def mapFailure (f : Failure → Failure) (x : Run σ α) : Run σ α := fun w =>
  ((x w).1, ⟨(x w).2.events, (x w).2.outcome.mapError f⟩)

theorem bind_apply (x : Run σ α) (f : α → Run σ β) (w : World σ) :
    (x >>= f) w = match (x w).2.outcome with
      | .error failure => ((x w).1, ⟨(x w).2.events, .error failure⟩)
      | .ok a =>
        ((f a (x w).1).1, ⟨(x w).2.events ++ (f a (x w).1).2.events, (f a (x w).1).2.outcome⟩) :=
  rfl

@[simp] theorem ask_tree (f : FileTree → Traced α) (w : World σ) :
    ((ask f : Run σ α) w).1 = w := rfl

@[simp] theorem ofExcept_world (x : Except Failure α) (w : World σ) :
    ((ofExcept x : Run σ α) w).1 = w := rfl

end Run
end Bindery
