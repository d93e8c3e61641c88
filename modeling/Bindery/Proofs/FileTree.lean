import Bindery.FileTree.Text
import Bindery.Proofs.Outcome
import Bindery.Proofs.Table
/-!
# Files that were written

What a written file reads as, and what the content of one file means for the paths of a tree: which
place a path leads to depends on what kind of node is where, and on no content.
-/
namespace Bindery.FileTree

open Outcome

theorem node?_put (t : FileTree) (place other : Place) (node : Node) :
    (t.put place node).node? other =
      if other = place ∧ other ≠ [] then some node else t.node? other := by
  by_cases hroot : other = []
  · simp [node?, hroot]
  · by_cases h : other = place
    · simp [node?, put, Table.get?_insert, h, h ▸ hroot]
    · simp [node?, put, Table.get?_insert, hroot, h]

/-- A file is written where the path leads, unless that is a directory. -/
theorem write_eq_ok {t written : FileTree} {p : Path} {content : List UInt8} :
    t.write p content = .ok written ↔
      ∃ place, t.locate p = .ok place ∧ t.node? place ≠ some .directory ∧
        written = t.put place (.file content) := by
  unfold write
  cases t.locate p with
  | error cause => simp
  | ok place =>
    cases hnode : t.node? place with
    | none => simp [hnode, eq_comm]
    | some node => cases node <;> simp [hnode, eq_comm]

/-- To store a file is to make the directories above it and to write it. -/
theorem store_eq_ok {t written : FileTree} {p : Path} {content : List UInt8} :
    t.store p content = (written, .ok ()) ↔
      ∃ made, t.makeDirectories p.parent = (made, .ok ()) ∧
        made.write p content = .ok written := by
  unfold store
  cases hmade : t.makeDirectories p.parent with
  | mk made outcome =>
    cases outcome with
    | error fault => simp
    | ok _ =>
      cases hwrite : made.write p content with
      | error fault => simp [hwrite]
      | ok after => simp [hwrite]

/-- A step that goes on does so in a tree that has the same directories and others. -/
theorem step_of_directories {t t' : FileTree} {place next : Place} {part : String}
    (h : t.step place part = .ok next)
    (hdirectory : t.node? place = some .directory → t'.node? place = some .directory) :
    t'.step place part = .ok next := by
  unfold step at h ⊢
  split at h
  · cases h
  · cases h
  · rename_i hplace
    rw [hdirectory hplace]
    exact h

/-- A path that leads somewhere leads there as long as directories stay. -/
theorem locate_of_directories {t t' : FileTree} {place : Place} {p : Path}
    (h : t.locate p = .ok place) (hhere : t'.here = t.here)
    (hdirectory : ∀ other, t.node? other = some .directory → t'.node? other = some .directory) :
    t'.locate p = .ok place := by
  have hfold : ∀ (parts : List String) (start : Place), parts.foldlM t.step start = .ok place →
      parts.foldlM t'.step start = .ok place := by
    intro parts
    induction parts with
    | nil => exact fun start hstart => hstart
    | cons part parts ih =>
      intro start hstart
      rw [List.foldlM_cons] at hstart ⊢
      obtain ⟨next, hnext, hrest⟩ := bind_eq_ok.1 hstart
      exact bind_eq_ok.2 ⟨next, step_of_directories hnext (hdirectory start), ih next hrest⟩
  unfold locate at h ⊢
  split at h
  · cases h
  split at h
  · cases h
  rw [if_neg (by assumption), if_neg (by assumption), hhere]
  exact hfold _ _ h

theorem locate_put {t : FileTree} {place other : Place} {p : Path} {node : Node}
    (h : t.locate p = .ok place) (hother : t.node? other ≠ some .directory) :
    (t.put other node).locate p = .ok place := by
  refine locate_of_directories h rfl fun place hplace => ?_
  have hne : place ≠ other := fun e => hother (e ▸ hplace)
  rw [node?_put, if_neg fun hp => hne hp.1, hplace]

/-- A written file reads as what was written. -/
theorem read_of_write {t written : FileTree} {p : Path} {content : List UInt8}
    (h : t.write p content = .ok written) : written.read p = .ok content := by
  obtain ⟨place, hplace, hnode, rfl⟩ := write_eq_ok.1 h
  have hroot : place ≠ [] := by
    rintro rfl
    exact hnode rfl
  rw [read, locate_put hplace hnode]
  simp [node?_put, hroot]

/-- What was stored is read. -/
theorem read_of_store {t written : FileTree} {p : Path} {content : List UInt8}
    (h : t.store p content = (written, .ok ())) : written.read p = .ok content := by
  obtain ⟨made, -, hwrite⟩ := store_eq_ok.1 h
  exact read_of_write hwrite

/-- Two trees with the same nodes, except that a file with a content in `p` may have another such
content in the other tree. -/
structure AlikeBut (p : List UInt8 → Prop) (t t' : FileTree) : Prop where
  here : t.here = t'.here
  node : ∀ place, t.node? place = t'.node? place ∨
    ∃ c c', t.node? place = some (.file c) ∧ t'.node? place = some (.file c') ∧ p c ∧ p c'

variable {p : List UInt8 → Prop} {t t' : FileTree}

theorem AlikeBut.locate_eq (h : AlikeBut p t t') (path : Path) :
    t.locate path = t'.locate path := by
  have hstep : t.step = t'.step := by
    funext place part
    unfold step
    obtain heq | ⟨c, c', hc, hc', -⟩ := h.node place
    · rw [heq]
    · rw [hc, hc']
  simp only [locate, h.here, hstep]

theorem AlikeBut.isFile_eq (h : AlikeBut p t t') (path : Path) :
    t.isFile path = t'.isFile path := by
  unfold isFile look
  rw [h.locate_eq]
  cases t'.locate path with
  | error cause => cases cause <;> rfl
  | ok place =>
    obtain heq | ⟨c, c', hc, hc', -⟩ := h.node place
    · simp only [heq]
    · simp [hc, hc']

theorem AlikeBut.read_eq (h : AlikeBut p t t') (path : Path) :
    t.read path = t'.read path ∨
      ∃ c c', t.read path = .ok c ∧ t'.read path = .ok c' ∧ p c ∧ p c' := by
  unfold read
  rw [h.locate_eq]
  cases t'.locate path with
  | error cause => exact .inl rfl
  | ok place =>
    obtain heq | ⟨c, c', hc, hc', hp, hp'⟩ := h.node place
    · exact .inl (by simp only [heq])
    · exact .inr ⟨c, c', by simp only [hc], by simp only [hc'], hp, hp'⟩

/-- File trees in which one file got either of two contents are alike but for these. -/
theorem alikeBut_of_store {t t₁ t₂ : FileTree} {path : Path} {c c' : List UInt8}
    (h : t.store path c = (t₁, .ok ())) (h' : t.store path c' = (t₂, .ok ())) (hp : p c)
    (hp' : p c') : AlikeBut p t₁ t₂ := by
  obtain ⟨made, hmade, hwrite⟩ := store_eq_ok.1 h
  obtain ⟨made', hmade', hwrite'⟩ := store_eq_ok.1 h'
  obtain rfl := (Prod.mk.inj (hmade.symm.trans hmade')).1
  obtain ⟨place, hplace, -, rfl⟩ := write_eq_ok.1 hwrite
  obtain ⟨place', hplace', -, rfl⟩ := write_eq_ok.1 hwrite'
  obtain rfl := Except.ok.inj (hplace.symm.trans hplace')
  refine ⟨rfl, fun other => ?_⟩
  rw [node?_put, node?_put]
  split
  · exact .inr ⟨c, c', rfl, rfl, hp, hp'⟩
  · exact .inl rfl

end Bindery.FileTree
