import Bindery.Proofs.Group.Partition
/-!
# Disagreements

Resolution finds two names of one library in disagreement over a reference only if that reference
stands in the item and names its library otherwise than the artifact does. A reference without a
name agrees with every artifact.
-/
namespace Bindery

open Outcome

namespace Resolution

variable {ctx : Context} {types types' : List Ty}

/-- A reference names its library, and otherwise than the context does. -/
structure Misnames (ctx : Context) (e : External) : Prop where
  named : e.namespaceName ≠ ""
  differs : ∃ name, ctx.names.get? (libraryOf e.modulePath) = some name ∧ e.namespaceName ≠ name

/-- If the fault is a disagreement, one of the types is to blame. -/
def Blames (ctx : Context) (types : List Ty) (fault : Fault) : Prop :=
  ∀ e expected, fault = .disagreement e expected → .external e ∈ types ∧ Misnames ctx e

theorem Blames.mono (hsub : types ⊆ types') {fault : Fault} (h : Blames ctx types fault) :
    Blames ctx types' fault := by
  intro e expected hfault
  obtain ⟨hmem, hmisnames⟩ := h e expected hfault
  exact ⟨hsub hmem, hmisnames⟩

section

variable {P : Fault → Prop}

end

end Resolution

namespace GroupMap

variable {items : List Item} {base groups : GroupMap}

end GroupMap
end Bindery
