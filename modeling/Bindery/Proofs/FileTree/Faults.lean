import Bindery.Proofs.FileTree.Updates
/-!
# Faults of files

What operations on files fail with. A path without a null character meets faults of the file system
only. Files that are brought up to date one after the other are done up to the first one that fails,
and one whose bytes are no text is such a one.
-/
namespace Bindery.FileTree

open Outcome

variable {t t' t'' : FileTree} {p : Path} {text : List Char}
  {outputs more : List (Path × List Char)}

/-- To look at a path is a fault only where the path is too long. -/
theorem look_eq_error {fault : FileFault} :
    t.look p = .error fault ↔ t.locate p = .error .nameTooLong ∧ fault = ⟨.nameTooLong, p⟩ := by
  unfold look
  cases t.locate p with
  | ok place => simp
  | error cause => cases cause <;> simp [eq_comm]

/-- A text cannot be decoded exactly if the file is read and its bytes are none. -/
theorem readText_eq_encoding {fault : Utf8.Fault} :
    t.readText p = .error (.encoding fault) ↔
      ∃ bytes, t.read p = .ok bytes ∧ Utf8.decodeChars bytes = .error fault := by
  unfold readText
  cases t.read p with
  | error e => simp
  | ok bytes =>
    cases hdecode : Utf8.decodeChars bytes <;> simp [hdecode]

theorem pathExists_of_read {bytes : List UInt8} (h : t.read p = .ok bytes) :
    t.pathExists p = .ok true := by
  obtain ⟨place, hplace, hnode⟩ := file_of_read h
  rw [pathExists, look, hplace]
  simp [hnode]

theorem readText?_eq_encoding {fault : Utf8.Fault} :
    t.readText? p = .error (.encoding fault) ↔
      ∃ bytes, t.read p = .ok bytes ∧ Utf8.decodeChars bytes = .error fault := by
  rw [← readText_eq_encoding]
  constructor
  · intro h
    unfold readText? at h
    split at h
    · cases h
    · cases h
    · exact map_eq_error.1 h
  · intro h
    obtain ⟨bytes, hbytes, -⟩ := readText_eq_encoding.1 h
    rw [readText?, pathExists_of_read hbytes]
    exact map_eq_error.2 h

/-- An update fails over bytes that are no text exactly when the file is there with such bytes, and
then it changes nothing. -/
theorem update_eq_encoding {fault : Utf8.Fault} :
    t.update p text = (t', .error (.encoding fault)) ↔ t' = t ∧
      ∃ bytes, t.read p = .ok bytes ∧ Utf8.decodeChars bytes = .error fault := by
  rw [← readText?_eq_encoding]
  unfold update
  constructor
  · intro h
    split at h
    · rename_i hread
      obtain ⟨rfl, he⟩ := Prod.mk.inj h
      exact ⟨rfl, hread.trans (congrArg _ (Except.error.inj he))⟩
    · split at h
      · cases (Prod.mk.inj h).2
      · split at h <;> cases (Prod.mk.inj h).2
  · rintro ⟨rfl, h⟩
    rw [h]

/-- Files that are brought up to date one after the other up to one that fails. -/
inductive Stuck : FileTree → List (Path × List Char) → FileTree → TextFault → Prop where
  | here {t t' : FileTree} {p : Path} {text : List Char} {rest : List (Path × List Char)}
      {cause : TextFault} (h : t.update p text = (t', .error cause)) :
      Stuck t ((p, text) :: rest) t' cause
  | later {t t₁ t' : FileTree} {p : Path} {text : List Char} {written : Bool}
      {rest : List (Path × List Char)} {cause : TextFault}
      (h : t.update p text = (t₁, .ok written)) (hrest : Stuck t₁ rest t' cause) :
      Stuck t ((p, text) :: rest) t' cause

/-- Files are stored one after the other, all of them or up to one that cannot be. -/
theorem updated_or_stuck (t : FileTree) (outputs : List (Path × List Char)) :
    (∃ t', Updated t outputs t') ∨ ∃ t' cause, Stuck t outputs t' cause := by
  induction outputs generalizing t with
  | nil => exact .inl ⟨t, .nil t⟩
  | cons output rest ih =>
    obtain ⟨p, text⟩ := output
    cases h : t.update p text with
    | mk t₁ outcome =>
      cases outcome with
      | error cause => exact .inr ⟨t₁, cause, .here h⟩
      | ok written =>
        obtain ⟨t', hrest⟩ | ⟨t', cause, hrest⟩ := ih t₁
        · exact .inl ⟨t', .cons h hrest⟩
        · exact .inr ⟨t', cause, .later h hrest⟩

/-- What stops two lists of updates stops the first, or the second after the first is done. -/
theorem stuck_append_iff {cause : TextFault} :
    Stuck t (outputs ++ more) t'' cause ↔
      Stuck t outputs t'' cause ∨ ∃ t', Updated t outputs t' ∧ Stuck t' more t'' cause := by
  constructor
  · intro h
    induction outputs generalizing t with
    | nil => exact .inr ⟨t, .nil t, h⟩
    | cons output outputs ih =>
      cases h with
      | here h => exact .inl (.here h)
      | later h hrest =>
        obtain hfirst | ⟨t', houtputs, hmore⟩ := ih hrest
        · exact .inl (.later h hfirst)
        · exact .inr ⟨t', .cons h houtputs, hmore⟩
  · rintro (h | ⟨t', h, hmore⟩)
    · induction h with
      | here h => exact .here h
      | later h _ ih => exact .later h ih
    · induction h with
      | nil t => exact hmore
      | cons h _ ih => exact .later h (ih hmore)

/-- There is one that fails, and those in front of it are done. -/
theorem stuck_iff {cause : TextFault} :
    Stuck t outputs t' cause ↔ ∃ front output back made, outputs = front ++ output :: back ∧
      Updated t front made ∧ made.update output.1 output.2 = (t', .error cause) := by
  constructor
  · intro h
    induction h with
    | here h => exact ⟨[], _, _, _, rfl, .nil _, h⟩
    | later h _ ih =>
      obtain ⟨front, output, back, made, rfl, hfront, hupdate⟩ := ih
      exact ⟨_ :: front, output, back, made, rfl, .cons h hfront, hupdate⟩
  · rintro ⟨front, ⟨p, text⟩, back, made, rfl, hfront, hupdate⟩
    exact stuck_append_iff.2 (.inr ⟨made, hfront, .here hupdate⟩)

end Bindery.FileTree
