import Bindery.Proofs.Group.Members
import Bindery.Proofs.Group.Order
/-!
# Batches

A batch of items is assigned as a whole or not at all, whatever the groups hold already. Whether it
is, and what the groups hold afterwards, does not depend on where the batch is cut into two, nor on
the order of its items.
-/
namespace Bindery.GroupMap

open Outcome

variable {groups mid after : GroupMap} {free : List Ident} {items xs ys : List Item}
  {staged more : List Placement}

/-- To assign items is to stage all of them and then to place them. -/
theorem assign_eq_ok :
    groups.assign items free = (after, .ok ()) ↔
      ∃ staged, groups.stage free items = .ok staged ∧
        groups.placeAll staged = (after, .ok ()) := by
  unfold assign
  cases groups.stage free items <;> simp

/-- A fault in one item leaves all groups as they are. -/
theorem assign_of_error {fault : Group.Fault}
    (h : groups.assign items free = (after, .error fault)) : after = groups := by
  unfold assign at h
  cases hstage : groups.stage free items with
  | error other =>
    simp only [hstage] at h
    exact (Prod.mk.inj h).1.symm
  | ok staged =>
    obtain ⟨placed, hplaced, -⟩ := places_of_stage hstage
    simp only [hstage, hplaced] at h
    cases (Prod.mk.inj h).2

theorem placeAll_append {front back : List Placement} :
    groups.placeAll (front ++ back) = (after, .ok ()) ↔
      ∃ mid, groups.placeAll front = (mid, .ok ()) ∧ mid.placeAll back = (after, .ok ()) := by
  induction front generalizing groups with
  | nil => simp [placeAll]
  | cons p front ih =>
    simp only [List.cons_append, placeAll]
    cases groups.place p with
    | error fault => simp
    | ok placed => exact ih

/-- A batch is staged in two parts, each against the groups there were before. -/
theorem stage_append :
    groups.stage free (xs ++ ys) = .ok more ↔
      ∃ staged, groups.stage free xs = .ok staged ∧
        ∃ rest, List.Forall₂ (Placeable groups free) (members ys) rest ∧
          more = staged ++ rest ∧ more.Nodup := by
  rw [stage, List.foldlM_append, bind_eq_ok]
  refine exists_congr fun staged => and_congr_right fun hstaged => ?_
  exact foldlM_stageItem_eq_ok ys (stage_eq_ok.1 hstaged).2

theorem Places.names (h : Places groups staged mid) (library : String) :
    (names mid).get? library = (names groups).get? library := by
  have hnames := congrArg (Option.map fun shown => shown.1.name) (h library)
  simpa [GroupMap.names, Table.get?_map, shown, Function.comp_def] using hnames

/-- Behind the placements there is room for whatever had room before them and is not among them. -/
theorem Places.room_iff (h : Places groups staged mid) (p : Placement) :
    (∃ g, mid.get? p.library = some g ∧ p.item ∉ g.items) ↔
      (∃ g, groups.get? p.library = some g ∧ p.item ∉ g.items) ∧ p ∉ staged := by
  have hplaces := h p.library
  cases hget : groups.get? p.library with
  | none =>
    rw [hget] at hplaces
    simp [Option.map_eq_none_iff.1 hplaces]
  | some g =>
    rw [hget] at hplaces
    obtain ⟨g', hget', hshown⟩ := Option.map_eq_some_iff.1 hplaces
    simp only [shown, Prod.mk.injEq] at hshown
    simp [hget', hshown.2.2, mem_placedIn]

/-- After some placements an item finds the place it had before, unless it has been taken. -/
theorem Places.placeable_iff (h : Places groups staged mid) (item : Item) (p : Placement) :
    Placeable mid free item p ↔ Placeable groups free item p ∧ p ∉ staged := by
  have hresolve : Resolution.resolve mid.names free = Resolution.resolve groups.names free :=
    Resolution.resolve_congr h.names fun _ => Iff.rfl
  constructor
  · rintro ⟨hlibrary, hresolved, hroom⟩
    obtain ⟨hroom, hnew⟩ := (h.room_iff p).1 hroom
    exact ⟨⟨hlibrary, hresolve ▸ hresolved, hroom⟩, hnew⟩
  · rintro ⟨⟨hlibrary, hresolved, hroom⟩, hnew⟩
    exact ⟨hlibrary, hresolve ▸ hresolved, (h.room_iff p).2 ⟨hroom, hnew⟩⟩

/-- A second batch is staged behind a first one like the rest of one batch. -/
theorem Places.stage_iff (h : Places groups staged mid) :
    mid.stage free ys = .ok more ↔
      List.Forall₂ (Placeable groups free) (members ys) more ∧ (∀ p ∈ more, p ∉ staged) ∧
        more.Nodup := by
  have hplaceable : Placeable mid free =
      fun item p => Placeable groups free item p ∧ p ∉ staged := by
    funext item p
    exact propext (h.placeable_iff item p)
  rw [stage_eq_ok, hplaceable, related_and_right, and_assoc]

/-- To assign two batches in a row is to assign both at once: what the second stages is new among
what the first stages. -/
theorem assign_append :
    groups.assign (xs ++ ys) free = (after, .ok ()) ↔
      ∃ mid, groups.assign xs free = (mid, .ok ()) ∧ mid.assign ys free = (after, .ok ()) := by
  simp only [assign_eq_ok, stage_append]
  constructor
  · rintro ⟨_, ⟨staged, hstaged, rest, hrest, rfl, hnodup⟩, hall⟩
    obtain ⟨mid, hmid, hafter⟩ := placeAll_append.1 hall
    obtain ⟨placed, hplaced, hplaces⟩ := places_of_stage hstaged
    obtain rfl := (Prod.mk.inj (hplaced.symm.trans hmid)).1
    obtain ⟨-, hnodup, hdisjoint⟩ := List.nodup_append.1 hnodup
    have hnew : ∀ p ∈ rest, p ∉ staged := fun p hp hp' => hdisjoint p hp' p hp rfl
    exact ⟨placed, ⟨staged, hstaged, hmid⟩, rest, hplaces.stage_iff.2 ⟨hrest, hnew, hnodup⟩, hafter⟩
  · rintro ⟨mid, ⟨staged, hstaged, hmid⟩, rest, hrest, hafter⟩
    obtain ⟨placed, hplaced, hplaces⟩ := places_of_stage hstaged
    obtain rfl := (Prod.mk.inj (hplaced.symm.trans hmid)).1
    obtain ⟨hrest, hnew, hnodup⟩ := hplaces.stage_iff.1 hrest
    refine ⟨staged ++ rest, ⟨staged, hstaged, rest, hrest, rfl, ?_⟩,
      placeAll_append.2 ⟨placed, hmid, hafter⟩⟩
    refine List.nodup_append.2 ⟨(stage_eq_ok.1 hstaged).2, hnodup, ?_⟩
    rintro p hp _ hp' rfl
    exact hnew p hp' hp

/-- Items in another order make the same groups. -/
theorem assign_perm (h : groups.assign xs free = (after, .ok ())) (hperm : xs.Perm ys) :
    ∃ after', groups.assign ys free = (after', .ok ()) ∧ Same after after' := by
  obtain ⟨staged, hstaged, hafter⟩ := assign_eq_ok.1 h
  obtain ⟨placed, hplaced, hplaces⟩ := places_of_stage hstaged
  obtain rfl := (Prod.mk.inj (hplaced.symm.trans hafter)).1
  obtain ⟨hplaceable, hnodup⟩ := stage_eq_ok.1 hstaged
  obtain ⟨staged', hplaceable', hstaged'⟩ := List.perm_comp_forall₂ (hperm.symm.filter _) hplaceable
  have hstage' : groups.stage free ys = .ok staged' :=
    stage_eq_ok.2 ⟨hplaceable', hstaged'.nodup_iff.2 hnodup⟩
  obtain ⟨after', hafter', hplaces'⟩ := places_of_stage hstage'
  exact ⟨after', assign_eq_ok.2 ⟨staged', hstage', hafter'⟩,
    same_of_places (fun _ => rfl) hstaged'.symm hplaces hplaces'⟩

/-- A batch that fails leaves the groups alone, a batch in two parts does what the whole does, and
a batch that succeeds does so in every order, with the same groups. -/
theorem assign_all_or_nothing (groups : GroupMap) (free : List Ident) (xs ys : List Item) :
    (∀ after fault, groups.assign xs free = (after, .error fault) → after = groups) ∧
      (∀ after, groups.assign (xs ++ ys) free = (after, .ok ()) ↔
        ∃ mid, groups.assign xs free = (mid, .ok ()) ∧ mid.assign ys free = (after, .ok ())) ∧
      ∀ after, groups.assign xs free = (after, .ok ()) → ∀ zs, xs.Perm zs →
        ∃ after', groups.assign zs free = (after', .ok ()) ∧ Same after after' :=
  ⟨fun _ _ => assign_of_error, fun _ => assign_append, fun _ h _ => assign_perm h⟩

end Bindery.GroupMap
