import Bindery.Event
import Bindery.Failure
/-!
# Traced results

The outcome of a step together with the events on the way to it. The events of a step that fails
are kept; a step after a failure does not happen.
-/
namespace Bindery

structure Traced (α : Type) where
  events : List Event
  outcome : Except Failure α

namespace Traced

def ofExcept (outcome : Except Failure α) : Traced α := ⟨[], outcome⟩

def fail (failure : Failure) : Traced α := ofExcept (.error failure)

def note (event : Event) : Traced Unit := ⟨[event], .ok ()⟩

protected def pure (a : α) : Traced α := ofExcept (.ok a)

protected def bind (r : Traced α) (f : α → Traced β) : Traced β :=
  match r.outcome with
  | .error failure => ⟨r.events, .error failure⟩
  | .ok a => ⟨r.events ++ (f a).events, (f a).outcome⟩

instance : Monad Traced where
  pure := Traced.pure
  bind := Traced.bind

@[simp] theorem outcome_ofExcept (x : Except Failure α) : (ofExcept x).outcome = x := rfl

@[simp] theorem outcome_pure (a : α) : (pure a : Traced α).outcome = .ok a := rfl

@[simp] theorem outcome_bind (r : Traced α) (f : α → Traced β) :
    (r >>= f).outcome = r.outcome >>= fun a => (f a).outcome := by
  change (Traced.bind r f).outcome = _
  unfold Traced.bind
  cases r.outcome <;> rfl

instance : LawfulMonad Traced := LawfulMonad.mk' Traced
  (fun r => by
    change Traced.bind r Traced.pure = r
    obtain ⟨events, outcome⟩ := r
    cases outcome <;> simp [Traced.bind, Traced.pure, ofExcept])
  (fun a f => by
    change Traced.bind (Traced.pure a) f = f a
    simp [Traced.bind, Traced.pure, ofExcept])
  (fun r f g => by
    change Traced.bind (Traced.bind r f) g = Traced.bind r fun a => Traced.bind (f a) g
    obtain ⟨events, outcome⟩ := r
    cases outcome with
    | error failure => rfl
    | ok a =>
      simp only [Traced.bind]
      cases (f a).outcome <;> simp)

end Traced
end Bindery
