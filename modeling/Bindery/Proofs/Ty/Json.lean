import Bindery.Proofs.Json.Members
import Bindery.Proofs.Outcome
import Bindery.Ty.Json
/-!
# Types are read back

The reader of types undoes the writer, also after the members have been put in order.
-/
namespace Bindery

open Json Outcome

namespace Ty

theorem ofMember_eq (key : String) (members : Members) :
    ofMember key members =
      match member? members key with
      | some j => ofJson j
      | none => .error .typeNotObject := by
  induction members with
  | nil => rfl
  | cons m rest ih =>
    obtain ⟨k, j⟩ := m
    by_cases h : k = key
    · simp [ofMember, member?, h]
    · simpa [ofMember, member?, h] using ih

/-- The members of a type have distinct keys, and the types inside it are read by this reader. -/
@[simp] theorem ofJson_sortMembers_toJson (t : Ty) : ofJson (sortMembers t.toJson) = .ok t := by
  induction t with
  | primitive kind => simp [toJson, ofJson, isKind, readPrimitive, requireText]
  | object path name =>
    simp [toJson, ofJson, isKind, readPlain, memberOrNull, plain?, requireText]
  | record path name =>
    simp [toJson, ofJson, isKind, readPlain, memberOrNull, plain?, requireText]
  | enumeration path name =>
    simp [toJson, ofJson, isKind, readPlain, memberOrNull, plain?, requireText]
  | callback path name =>
    simp [toJson, ofJson, isKind, readPlain, memberOrNull, plain?, requireText]
  | custom path name builtin ih => simp [toJson, ofJson, isKind, requireText, ofMember_eq, ih]
  | optional inner ih => simp [toJson, ofJson, isKind, ofMember_eq, ih]
  | sequence inner ih => simp [toJson, ofJson, isKind, ofMember_eq, ih]
  | map key value ihkey ihvalue => simp [toJson, ofJson, isKind, ofMember_eq, ihkey, ihvalue]
  | external target => simp [toJson, ofJson, isKind, readExternal, requireText, flagOr]

/-- A type holds no number, so it is legible. -/
theorem legible_toJson (t : Ty) {floats : Decimal.Binary64 → Prop} : Legible floats t.toJson := by
  induction t with
  | primitive kind => exact .obj (by simp) (by simp [Legible.str])
  | object path name => exact .obj (by simp) (by simp [Legible.str])
  | record path name => exact .obj (by simp) (by simp [Legible.str])
  | enumeration path name => exact .obj (by simp) (by simp [Legible.str])
  | callback path name => exact .obj (by simp) (by simp [Legible.str])
  | custom path name builtin ih => exact .obj (by simp) (by simp [Legible.str, ih])
  | optional inner ih => exact .obj (by simp) (by simp [Legible.str, ih])
  | sequence inner ih => exact .obj (by simp) (by simp [Legible.str, ih])
  | map key value ihkey ihvalue => exact .obj (by simp) (by simp [Legible.str, ihkey, ihvalue])
  | external target => exact .obj (by simp) (by simp [Legible.str, Legible.bool])

end Ty
end Bindery
