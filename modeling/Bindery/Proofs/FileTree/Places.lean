import Bindery.Proofs.FileTree
/-!
# Places below a directory

A path without double dots is spelled like its place, and in a tree whose nodes all lie in
directories nothing is below a path that does not exist.
-/
namespace Bindery.FileTree

open Outcome

variable {t t' : FileTree} {p : Path} {place : Place}

/-- Whatever is in a tree is in a directory. -/
def Rooted (t : FileTree) : Prop :=
  ∀ place part, t.node? (place ++ [part]) ≠ none → t.node? place = some .directory

/-- Above everything that is there stand directories. -/
theorem Rooted.above (h : t.Rooted) {more : List String} (hmore : more ≠ [])
    (hnode : t.node? (place ++ more) ≠ none) : t.node? place = some .directory := by
  induction more generalizing place with
  | nil => exact absurd rfl hmore
  | cons part more ih =>
    rw [List.append_cons] at hnode
    by_cases hlast : more = []
    · subst hlast
      exact h place part (by simpa using hnode)
    · refine h place part ?_
      rw [ih hlast hnode]
      exact Option.some_ne_none _

theorem rooted_iff : t.Rooted ↔
    ∀ entry ∈ t.nodes.entries, t.node? entry.1.dropLast = some .directory := by
  constructor
  · intro h entry hentry
    by_cases hroot : entry.1 = []
    · simp [hroot, node?]
    · refine h _ (entry.1.getLast hroot) ?_
      rw [List.dropLast_append_getLast, node?, if_neg hroot,
        (t.nodes.get?_eq_some_iff entry.1 entry.2).2 hentry]
      exact Option.some_ne_none _
  · intro h place part hnode
    rw [node?, if_neg (by simp)] at hnode
    obtain ⟨node, hnode⟩ := Option.ne_none_iff_exists'.1 hnode
    have hparent := h _ ((t.nodes.get?_eq_some_iff _ _).1 hnode)
    rwa [List.dropLast_concat] at hparent

/-- Without double dots the place of a path is spelled by its parts. -/
theorem place_of_steps {parts : List String} (hdots : ".." ∉ parts) {start : Place}
    (h : parts.foldlM t.step start = .ok place) : place = start ++ parts := by
  induction parts generalizing start with
  | nil => exact (Except.ok.inj h).symm.trans (List.append_nil _).symm
  | cons part parts ih =>
    rw [List.mem_cons, not_or] at hdots
    rw [List.foldlM_cons] at h
    obtain ⟨next, hnext, h⟩ := bind_eq_ok.1 h
    obtain rfl : start ++ [part] = next := by
      unfold step at hnext
      split at hnext
      · cases hnext
      · cases hnext
      · rw [if_neg fun e => hdots.1 e.symm] at hnext
        split at hnext
        · cases hnext
        · exact Except.ok.inj hnext
    rw [ih hdots.2 h, List.append_assoc]
    rfl

theorem steps_of_locate (h : t.locate p = .ok place) :
    p.parts.foldlM t.step (if p.root = "" then t.here else []) = .ok place := by
  unfold locate at h
  split at h
  · cases h
  split at h
  · cases h
  exact h

/-- A name without double dots leads on from the place of its directory. -/
theorem steps_of_locate_append {filename : String} (hrelative : (Path.parse filename).root = "")
    (hdots : ".." ∉ (Path.parse filename).parts)
    (h : t.locate (p.append filename) = .ok place) :
    ∃ start, p.parts.foldlM t.step (if p.root = "" then t.here else []) = .ok start ∧
      place = start ++ (Path.parse filename).parts := by
  have hsteps := steps_of_locate h
  simp only [Path.append, Path.join, hrelative, ne_eq, not_true_eq_false, if_false,
    List.foldlM_append] at hsteps
  obtain ⟨start, hstart, hrest⟩ := bind_eq_ok.1 hsteps
  exact ⟨start, hstart, place_of_steps hdots hrest⟩

/-- A path leads to what is in a rooted tree, if it leads there in another tree. -/
theorem Rooted.locate (h : t.Rooted) (hhere : t'.here = t.here) (hdots : ".." ∉ p.parts)
    (hplace : t'.locate p = .ok place) (hnode : t.node? place ≠ none) :
    t.locate p = .ok place := by
  have hsteps : ∀ (parts : List String) (start : Place), ".." ∉ parts →
      parts.foldlM t'.step start = .ok place → parts.foldlM t.step start = .ok place := by
    intro parts
    induction parts with
    | nil => exact fun _ _ hstart => hstart
    | cons part parts ih =>
      intro start hdots hstart
      have hspelled := place_of_steps hdots hstart
      have hdirectory : t.node? start = some .directory :=
        h.above (List.cons_ne_nil part parts) (hspelled ▸ hnode)
      rw [List.foldlM_cons] at hstart ⊢
      obtain ⟨next, hnext, hrest⟩ := bind_eq_ok.1 hstart
      rw [List.mem_cons, not_or] at hdots
      exact bind_eq_ok.2 ⟨next, step_of_directories hnext fun _ => hdirectory,
        ih next hdots.2 hrest⟩
  unfold FileTree.locate at hplace ⊢
  split at hplace
  · cases hplace
  split at hplace
  · cases hplace
  rw [if_neg (by assumption), if_neg (by assumption), ← hhere]
  exact hsteps _ _ hdots hplace

/-- Nothing is at or below a path that does not exist. -/
theorem Rooted.absent_below (h : t.Rooted) (hnone : t.pathExists p = .ok false)
    (hhere : t'.here = t.here) (hdots : ".." ∉ p.parts) (hplace : t'.locate p = .ok place)
    (more : List String) : t.node? (place ++ more) = none := by
  have habsent : t.node? place = none := by
    by_contra hnode
    rw [pathExists, look, h.locate hhere hdots hplace hnode] at hnone
    simp [Option.ne_none_iff_isSome.1 hnode] at hnone
  by_cases hmore : more = []
  · rwa [hmore, List.append_nil]
  · by_contra hnode
    rw [h.above hmore hnode] at habsent
    cases habsent

end Bindery.FileTree
