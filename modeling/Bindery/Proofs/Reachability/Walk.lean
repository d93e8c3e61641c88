import Bindery.Proofs.Table
import Bindery.Reachability
import Mathlib.Data.List.Perm.Subperm
import Mathlib.Logic.Relation
/-!
# The walk for object handles

The walk as a relation without fuel, and the least set of identifiers that are free of handles.
The fuel of `visit` is shown to be enough by the number of identifiers that are not pending yet;
everything else about the walk is proved over the relation.
-/
namespace Bindery.Reachability

/-- What a walk has left to do: an identifier, or the links of one that is pending. -/
inductive Task where
  | visit (id : Ident)
  | follow (links : List Link)

/-- A walk that ends with an answer. Each constructor is one way on, and none of them bounds how
deep the walk goes. -/
inductive Runs (known : Universe) (trust : Bool) :
    (pending free : List Ident) → Task → Answer → Prop where
  | remembered (pending : List Ident) {free : List Ident} {id : Ident} :
      id ∈ free → Runs known trust pending free (.visit id) ⟨false, free⟩
  | unknown (pending : List Ident) {free : List Ident} {id : Ident} :
      id ∉ free → known.get? id = none → Runs known trust pending free (.visit id) ⟨true, free⟩
  | again {pending free : List Ident} {id : Ident} :
      id ∉ free → id ∈ pending → Runs known trust pending free (.visit id) ⟨true, free⟩
  | enter {pending free : List Ident} {id : Ident} {links : List Link} {answer : Answer} :
      id ∉ free → known.get? id = some links → id ∉ pending →
      Runs known trust (id :: pending) free (.follow links) answer →
      Runs known trust pending free (.visit id)
        (if answer.holds then answer else ⟨false, answer.free ++ [id]⟩)
  | done (pending free : List Ident) : Runs known trust pending free (.follow []) ⟨false, free⟩
  | handle (pending free : List Ident) (rest : List Link) :
      Runs known trust pending free (.follow (.handle :: rest)) ⟨true, free⟩
  | flagged (pending free : List Ident) {id : Ident} {stamp : Option Bool} (rest : List Link) :
      decidedBy known trust id stamp = some true →
      Runs known trust pending free (.follow (.target id stamp :: rest)) ⟨true, free⟩
  | harmless {pending free : List Ident} {id : Ident} {stamp : Option Bool} {rest : List Link}
      {answer : Answer} :
      decidedBy known trust id stamp = some false →
      Runs known trust pending free (.follow rest) answer →
      Runs known trust pending free (.follow (.target id stamp :: rest)) answer
  | stop {pending free : List Ident} {id : Ident} {stamp : Option Bool} {answer : Answer}
      (rest : List Link) :
      decidedBy known trust id stamp = none →
      Runs known trust pending free (.visit id) answer → answer.holds = true →
      Runs known trust pending free (.follow (.target id stamp :: rest)) answer
  | goOn {pending free : List Ident} {id : Ident} {stamp : Option Bool} {rest : List Link}
      {first answer : Answer} :
      decidedBy known trust id stamp = none →
      Runs known trust pending free (.visit id) first → first.holds = false →
      Runs known trust pending first.free (.follow rest) answer →
      Runs known trust pending free (.follow (.target id stamp :: rest)) answer

variable {known : Universe} {trust : Bool}

theorem runs_follow {pending : List Ident} {step : List Ident → Ident → Answer}
    (hstep : ∀ free id, Runs known trust pending free (.visit id) (step free id))
    (links : List Link) (free : List Ident) :
    Runs known trust pending free (.follow links) (follow known trust step free links) := by
  induction links generalizing free with
  | nil => exact .done pending free
  | cons link rest ih =>
    cases link with
    | handle => exact .handle pending free rest
    | target id stamp =>
      cases hd : decidedBy known trust id stamp with
      | some flag =>
        cases flag with
        | true =>
          simp only [follow, hd]
          exact .flagged pending free rest hd
        | false =>
          simp only [follow, hd]
          exact .harmless hd (ih free)
      | none =>
        simp only [follow, hd]
        cases hh : (step free id).holds with
        | true =>
          rw [if_pos rfl]
          exact .stop rest hd (hstep free id) hh
        | false =>
          rw [if_neg (by simp)]
          exact .goOn hd (hstep free id) hh (ih _)

/-- Pending identifiers are known and distinct, so with as much fuel as there are other known
identifiers the walk is never cut off. -/
theorem runs_visit (fuel : Nat) {pending : List Ident} (hn : pending.Nodup)
    (hk : pending ⊆ known.keys) (hf : known.keys.length ≤ fuel + pending.length)
    (free : List Ident) (id : Ident) :
    Runs known trust pending free (.visit id) (visit known trust fuel pending free id) := by
  induction fuel generalizing pending free id with
  | zero =>
    unfold visit
    by_cases hfree : id ∈ free
    · simpa [hfree] using Runs.remembered pending hfree
    · cases hget : known.get? id with
      | none => simpa [hfree] using Runs.unknown pending hfree hget
      | some links =>
        have hall : known.keys ⊆ pending :=
          ((List.subperm_of_subset hn hk).perm_of_length_le (by omega)).symm.subset
        have hid : id ∈ known.keys := (known.mem_keys_iff id).2 ⟨links, hget⟩
        simpa [hfree] using Runs.again hfree (hall hid)
  | succ fuel ih =>
    unfold visit
    by_cases hfree : id ∈ free
    · simpa [hfree] using Runs.remembered pending hfree
    · cases hget : known.get? id with
      | none => simpa [hfree] using Runs.unknown pending hfree hget
      | some links =>
        by_cases hp : id ∈ pending
        · simpa [hfree, hp] using Runs.again hfree hp
        · have hid : id ∈ known.keys := (known.mem_keys_iff id).2 ⟨links, hget⟩
          have hstep := ih (List.nodup_cons.2 ⟨hp, hn⟩) (List.cons_subset.2 ⟨hid, hk⟩)
            (by simp only [List.length_cons]; omega)
          simpa [hfree, hp] using Runs.enter hfree hget hp (runs_follow hstep links free)

/-- Every query is a walk, because its fuel is enough. -/
theorem runs_query (free : List Ident) (id : Ident) :
    Runs known trust [] free (.visit id) (query known trust free id) :=
  runs_visit _ List.nodup_nil (List.nil_subset _) (by simp) free id

end Bindery.Reachability
