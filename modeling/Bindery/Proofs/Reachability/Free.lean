import Bindery.Proofs.Reachability.Walk
/-!
# The identifiers that are free of handles

The least set that a walk can remember. A walk that starts with identifiers of this set remembers
only more of them, and a query from the top is answered with "free" exactly on the set. The second
half holds because no identifier that is pending can be met below one that is free: the links
between free identifiers run in no cycle.
-/
namespace Bindery.Reachability

/-- The least set with the identifiers of `base` and every known identifier whose links lead to
nothing but members: to no handle, and to no unknown target that a trusted stamp flags. -/
inductive Free (known : Universe) (trust : Bool) (base : List Ident) : Ident → Prop where
  | base {id : Ident} : id ∈ base → Free known trust base id
  | known {id : Ident} {links : List Link} :
      known.get? id = some links → .handle ∉ links →
      (∀ target stamp, .target target stamp ∈ links →
        decidedBy known trust target stamp ≠ some true) →
      (∀ target stamp, .target target stamp ∈ links →
        decidedBy known trust target stamp = none → Free known trust base target) →
      Free known trust base id

/-- One link of a known identifier that a walk goes along, unless it starts in `base`. -/
def Along (known : Universe) (trust : Bool) (base : List Ident) (source target : Ident) : Prop :=
  source ∉ base ∧ ∃ links stamp, known.get? source = some links ∧
    .target target stamp ∈ links ∧ decidedBy known trust target stamp = none

/-- What it means for the rest of a task to be free. -/
def Task.IsFree (known : Universe) (trust : Bool) (base : List Ident) : Task → Prop
  | .visit id => Free known trust base id
  | .follow links => .handle ∉ links ∧
      (∀ target stamp, .target target stamp ∈ links →
        decidedBy known trust target stamp ≠ some true) ∧
      ∀ target stamp, .target target stamp ∈ links →
        decidedBy known trust target stamp = none → Free known trust base target

variable {known : Universe} {trust : Bool} {base : List Ident}

theorem isFree_cons {link : Link} {rest : List Link} :
    Task.IsFree known trust base (.follow (link :: rest)) ↔
      Task.IsFree known trust base (.follow [link]) ∧
        Task.IsFree known trust base (.follow rest) := by
  simp only [Task.IsFree, List.mem_cons, List.not_mem_nil, or_false, not_or]
  constructor
  · rintro ⟨⟨h₁, h₂⟩, h₃, h₄⟩
    exact ⟨⟨h₁, fun t s h => h₃ t s (.inl h), fun t s h => h₄ t s (.inl h)⟩,
      h₂, fun t s h => h₃ t s (.inr h), fun t s h => h₄ t s (.inr h)⟩
  · rintro ⟨⟨h₁, h₃, h₄⟩, h₂, h₅, h₆⟩
    exact ⟨⟨h₁, h₂⟩, fun t s h => h.elim (h₃ t s) (h₅ t s), fun t s h => h.elim (h₄ t s) (h₆ t s)⟩

/-- A walk forgets nothing, remembers only free identifiers, and says "free" only of what is. -/
theorem Runs.sound {pending free : List Ident} {task : Task} {answer : Answer}
    (h : Runs known trust pending free task answer)
    (hfree : ∀ id ∈ free, Free known trust base id) :
    free ⊆ answer.free ∧ (∀ id ∈ answer.free, Free known trust base id) ∧
      (answer.holds = false → task.IsFree known trust base) := by
  induction h with
  | remembered pending hid => exact ⟨List.Subset.refl _, hfree, fun _ => hfree _ hid⟩
  | unknown => exact ⟨List.Subset.refl _, hfree, fun hh => nomatch hh⟩
  | again => exact ⟨List.Subset.refl _, hfree, fun hh => nomatch hh⟩
  | @enter pending free id links answer _ hget _ _ ih =>
    obtain ⟨hsub, hall, hlinks⟩ := ih hfree
    cases hh : answer.holds with
    | true => exact ⟨hsub, hall, fun hf => by simp [hh] at hf⟩
    | false =>
      obtain ⟨h₁, h₂, h₃⟩ := hlinks hh
      have hid : Free known trust base id := .known hget h₁ h₂ h₃
      refine ⟨fun x hx => by simp [hsub hx], ?_, fun _ => hid⟩
      intro x hx
      rcases List.mem_append.1 hx with hx | hx
      · exact hall x hx
      · exact List.mem_singleton.1 hx ▸ hid
  | done => exact ⟨List.Subset.refl _, hfree, fun _ => by simp [Task.IsFree]⟩
  | handle => exact ⟨List.Subset.refl _, hfree, fun hh => nomatch hh⟩
  | flagged => exact ⟨List.Subset.refl _, hfree, fun hh => nomatch hh⟩
  | harmless hd _ ih =>
    obtain ⟨hsub, hall, hrest⟩ := ih hfree
    refine ⟨hsub, hall, fun hh => isFree_cons.2 ⟨?_, hrest hh⟩⟩
    simp [Task.IsFree, hd]
  | stop _ _ _ hh ih =>
    obtain ⟨hsub, hall, _⟩ := ih hfree
    exact ⟨hsub, hall, fun hf => by simp [hh] at hf⟩
  | goOn hd _ hh _ ih₁ ih₂ =>
    obtain ⟨hsub₁, hall₁, hid⟩ := ih₁ hfree
    obtain ⟨hsub₂, hall₂, hrest⟩ := ih₂ hall₁
    refine ⟨fun x hx => hsub₂ (hsub₁ hx), hall₂, fun hf => isFree_cons.2 ⟨?_, hrest hf⟩⟩
    have hid := hid hh
    simp only [Task.IsFree] at hid
    simp [Task.IsFree, hd, hid]

/-- Walks from a free identifier come to an end. -/
theorem Free.acc {id : Ident} (h : Free known trust base id) :
    Acc (fun target source => Along known trust base source target) id := by
  induction h with
  | base hid => exact .intro _ fun _ h => absurd hid h.1
  | @known id links hget _ _ _ ih =>
    refine .intro _ fun target h => ?_
    obtain ⟨_, links', stamp, hget', hmem, hd⟩ := h
    obtain rfl : links = links' := Option.some.inj (hget.symm.trans hget')
    exact ih target stamp hmem hd

/-- No walk from a free identifier comes back to it. -/
theorem Free.not_cycle {id : Ident} (h : Free known trust base id) :
    ¬ Relation.TransGen (Along known trust base) id id := by
  intro hc
  have hacc := h.acc.transGen
  have hback :
      Relation.TransGen (fun target source => Along known trust base source target) id id :=
    Relation.transGen_swap.2 hc
  induction hacc with
  | intro x _ ih => exact ih x hback h hc hback

/-- What it means that no pending identifier lies ahead of the rest of a task. -/
def Task.IsClear (known : Universe) (trust : Bool) (base pending : List Ident) : Task → Prop
  | .visit id => ∀ p ∈ pending, ¬ Relation.ReflTransGen (Along known trust base) id p
  | .follow links => ∀ target stamp, .target target stamp ∈ links →
      decidedBy known trust target stamp = none →
      ∀ p ∈ pending, ¬ Relation.ReflTransGen (Along known trust base) target p

theorem isClear_of_cons {pending : List Ident} {link : Link} {rest : List Link}
    (h : Task.IsClear known trust base pending (.follow (link :: rest))) :
    Task.IsClear known trust base pending (.follow rest) :=
  fun target stamp hmem => h target stamp (List.mem_cons_of_mem _ hmem)

/-- Behind a free identifier that becomes pending no pending one lies ahead: one from before would
have been ahead of it, and the identifier itself would close a cycle. -/
theorem isClear_links {pending : List Ident} {id : Ident} {links : List Link}
    (hid : Free known trust base id) (hbase : id ∉ base) (hget : known.get? id = some links)
    (hclear : Task.IsClear known trust base pending (.visit id)) :
    Task.IsClear known trust base (id :: pending) (.follow links) := by
  intro target stamp hmem hd p hp hwalk
  have hstep : Along known trust base id target := ⟨hbase, links, stamp, hget, hmem, hd⟩
  rcases List.mem_cons.1 hp with rfl | hp
  · exact hid.not_cycle (Relation.TransGen.head' hstep hwalk)
  · exact hclear p hp (Relation.ReflTransGen.head hstep hwalk)

/-- A walk over free identifiers says "free" when no pending one lies ahead of it. -/
theorem Runs.complete {pending free : List Ident} {task : Task} {answer : Answer}
    (h : Runs known trust pending free task answer) (hbase : base ⊆ free)
    (hfree : ∀ id ∈ free, Free known trust base id) (htask : task.IsFree known trust base)
    (hclear : task.IsClear known trust base pending) : answer.holds = false := by
  induction h with
  | remembered => rfl
  | unknown pending hid hget =>
    cases htask with
    | base hb => exact absurd (hbase hb) hid
    | known hget' => simp [hget] at hget'
  | again _ hp => exact absurd .refl (hclear _ hp)
  | @enter pending free id links answer hid hget _ _ ih =>
    have hnot : id ∉ base := fun hb => hid (hbase hb)
    have hlinks : Task.IsFree known trust base (.follow links) := by
      cases htask with
      | base hb => exact absurd hb hnot
      | known hget' h₁ h₂ h₃ =>
        obtain rfl := Option.some.inj (hget.symm.trans hget')
        exact ⟨h₁, h₂, h₃⟩
    have hh := ih hbase hfree hlinks (isClear_links htask hnot hget hclear)
    simp [hh]
  | done => rfl
  | handle => exact absurd (by simp) htask.1
  | flagged _ _ _ hd => exact absurd hd (htask.2.1 _ _ (by simp))
  | harmless _ _ ih => exact ih hbase hfree (isFree_cons.1 htask).2 (isClear_of_cons hclear)
  | stop _ hd _ _ ih =>
    exact ih hbase hfree (htask.2.2 _ _ (by simp) hd) (hclear _ _ (by simp) hd)
  | goOn _ hfirst _ _ _ ih =>
    obtain ⟨hsub, hall, _⟩ := hfirst.sound hfree
    exact ih (fun x hx => hsub (hbase hx)) hall (isFree_cons.1 htask).2 (isClear_of_cons hclear)

/-- An identifier that is pending is not remembered before its walk ends. -/
theorem Runs.not_mem_of_pending {pending free : List Ident} {task : Task} {answer : Answer}
    (h : Runs known trust pending free task answer) {p : Ident} (hp : p ∈ pending)
    (hfree : p ∉ free) : p ∉ answer.free := by
  induction h with
  | remembered | unknown | again | done | handle | flagged => exact hfree
  | @enter pending free id links answer _ _ hid _ ih =>
    have hinner := ih (List.mem_cons_of_mem _ hp) hfree
    have hne : p ≠ id := fun e => hid (e ▸ hp)
    split
    · exact hinner
    · simp [hinner, hne]
  | harmless _ _ ih => exact ih hp hfree
  | stop _ _ _ _ ih => exact ih hp hfree
  | goOn _ _ _ _ ih₁ ih₂ => exact ih₂ hp (ih₁ hp hfree)

/-- A walk remembers no identifier twice. -/
theorem Runs.nodup {pending free : List Ident} {task : Task} {answer : Answer}
    (h : Runs known trust pending free task answer) (hfree : free.Nodup) : answer.free.Nodup := by
  induction h with
  | remembered | unknown | again | done | handle | flagged => exact hfree
  | enter hid _ _ hrun ih =>
    have hnot := hrun.not_mem_of_pending List.mem_cons_self hid
    split
    · exact ih hfree
    · exact List.nodup_append.2 ⟨ih hfree, by simp, fun a ha b hb e => by
        rw [List.mem_singleton.1 hb] at e
        exact hnot (e ▸ ha)⟩
  | harmless _ _ ih => exact ih hfree
  | stop _ _ _ _ ih => exact ih hfree
  | goOn _ _ _ _ ih₁ ih₂ => exact ih₂ (ih₁ hfree)

/-- An identifier that is found free is remembered. -/
theorem Runs.mem_of_free {pending free : List Ident} {id : Ident} {answer : Answer}
    (h : Runs known trust pending free (.visit id) answer) (hh : answer.holds = false) :
    id ∈ answer.free := by
  cases h with
  | remembered _ hid => exact hid
  | unknown => cases hh
  | again => cases hh
  | enter =>
    split at hh
    · simp_all
    · simp_all

/-- A query from the top answers "free" exactly on the free identifiers, whatever else of them is
remembered already, and it remembers nothing else. -/
theorem query_spec {free : List Ident} (hbase : base ⊆ free)
    (hfree : ∀ id ∈ free, Free known trust base id) (id : Ident) :
    ((query known trust free id).holds = false ↔ Free known trust base id) ∧
      free ⊆ (query known trust free id).free ∧
      ∀ x ∈ (query known trust free id).free, Free known trust base x := by
  have hrun : Runs known trust [] free (.visit id) (query known trust free id) :=
    runs_query free id
  obtain ⟨hsub, hall, hsound⟩ := hrun.sound hfree
  exact ⟨⟨hsound, fun hid => hrun.complete hbase hfree hid (by simp [Task.IsClear])⟩, hsub, hall⟩

/-- Queries one after the other remember free identifiers only, and all that they ask about. -/
theorem queries_spec (ids : List Ident) {free : List Ident} (hbase : base ⊆ free)
    (hfree : ∀ id ∈ free, Free known trust base id) :
    let after := ids.foldl (fun free id => (query known trust free id).free) free
    free ⊆ after ∧ (∀ id ∈ after, Free known trust base id) ∧
      ∀ id ∈ ids, Free known trust base id → id ∈ after := by
  induction ids generalizing free with
  | nil => simpa using hfree
  | cons id ids ih =>
    obtain ⟨hid, hsub, hall⟩ := query_spec hbase hfree id
    obtain ⟨hsub', hall', hmem⟩ := ih (fun x hx => hsub (hbase hx)) hall
    refine ⟨fun x hx => hsub' (hsub hx), hall', fun x hx hx' => ?_⟩
    rcases List.mem_cons.1 hx with rfl | hx
    · exact hsub' ((runs_query free x).mem_of_free (hid.2 hx'))
    · exact hmem x hx hx'

theorem Free.mem_keys {id : Ident} (h : Free known trust [] id) : id ∈ known.keys := by
  cases h with
  | base hid => cases hid
  | known hget => exact (known.mem_keys_iff id).2 ⟨_, hget⟩

/-- The identifiers that are computed are the free ones. -/
theorem mem_freeOf_iff (id : Ident) : id ∈ freeOf known trust ↔ Free known trust [] id := by
  have hnone : ∀ id ∈ ([] : List Ident), Free known trust [] id := by simp
  obtain ⟨_, hall, hmem⟩ := queries_spec known.keys (List.nil_subset _) hnone
  exact ⟨hall id, fun h => hmem id h.mem_keys h⟩

theorem nodup_freeOf (known : Universe) (trust : Bool) : (freeOf known trust).Nodup := by
  suffices h : ∀ ids free : List Ident, free.Nodup →
      (ids.foldl (fun free id => (query known trust free id).free) free).Nodup from
    h known.keys [] List.nodup_nil
  intro ids
  induction ids with
  | nil => exact fun free hfree => hfree
  | cons id ids ih => exact fun free hfree => ih _ ((runs_query free id).nodup hfree)

end Bindery.Reachability
