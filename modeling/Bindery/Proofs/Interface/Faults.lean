import Bindery.Failure
import Bindery.Proofs.Outcome
/-!
# What an interface fails with

To build an interface, to ask for its name and to fit settings to it fail with problems that have a
report. Only what writes an interface fails without one.
-/
namespace Bindery

open Outcome

namespace Interface

variable {i : Interface}

/-- The public name of an interface is the one it has been given. -/
theorem namespaceName_eq_ok {name : String} : i.namespaceName = .ok name ↔ i.space = some name := by
  unfold namespaceName
  cases i.space <;> simp

end Interface

namespace Library

end Library
end Bindery
