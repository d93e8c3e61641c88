import Bindery.Proofs.FileTree.Faults
import Bindery.Proofs.FileTree.Ways
import Bindery.Proofs.Text.Lines
/-!
# Exact updates

An update compares a text with what a file reads as, and line ends are made one in reading. So it
leaves exactly the bytes of the text and is told right whether they were there before, unless the
text holds a carriage return or the file differs from the text in the spelling of line ends alone.
-/
namespace Bindery.FileTree

open Outcome

variable {t t' : FileTree} {p : Path} {text known : List Char} {written : Bool}

/-- The file has the bytes of the text afterwards, the answer tells whether it had others before,
and a second update finds nothing to do. -/
structure UpdatesExactly (t : FileTree) (p : Path) (text : List Char) (t' : FileTree)
    (written : Bool) : Prop where
  runs : t.update p text = (t', .ok written)
  reads : t'.read p = .ok (Utf8.encodeChars text)
  tells : written = true ↔ t.read p ≠ .ok (Utf8.encodeChars text)
  settles : t'.update p text = (t', .ok false)

/-- No text is read where there is no file. -/
theorem readText?_of_absent (h : t.pathExists p = .ok false) : t.readText? p = .ok none := by
  rw [readText?, h]

/-- A text is read with its line ends made one. -/
theorem readText?_of_text (h : t.read p = .ok (Utf8.encodeChars known)) :
    t.readText? p = .ok (some (Text.unifyLineEnds known)) := by
  rw [readText?, pathExists_of_read h]
  simp [readText, h, Utf8.decodeChars_encodeChars]

/-- A file is left alone if its text is read as the new one. -/
theorem update_of_same (h : t.readText? p = .ok (some text)) :
    t.update p text = (t, .ok false) := by
  simp [update, h]

/-- A file with another text, or none, is written. -/
theorem update_of_other {known : Option (List Char)} (h : t.readText? p = .ok known)
    (hknown : known ≠ some text) (hstore : t.store p (Utf8.encodeChars text) = (t', .ok ())) :
    t.update p text = (t', .ok true) := by
  simp [update, h, hknown, hstore]

theorem readText?_of_update_false (h : t.update p text = (t', .ok false)) :
    t' = t ∧ t.readText? p = .ok (some text) := by
  unfold update at h
  split at h
  · cases (Prod.mk.inj h).2
  · split at h
    · rename_i hknown hsame
      exact ⟨(Prod.mk.inj h).1.symm, hsame ▸ hknown⟩
    · split at h <;> cases (Prod.mk.inj h).2

theorem store_of_update_true (h : t.update p text = (t', .ok true)) :
    t.store p (Utf8.encodeChars text) = (t', .ok ()) := by
  unfold update at h
  split at h
  · cases (Prod.mk.inj h).2
  · split at h
    · cases (Prod.mk.inj h).2
    · split at h
      · rename_i hstore
        rw [hstore, (Prod.mk.inj h).1]
      · cases (Prod.mk.inj h).2

/-- A file with the bytes of a text is left alone unless the text holds a carriage return. -/
theorem update_settled_iff (h : t.read p = .ok (Utf8.encodeChars text)) :
    t.update p text = (t, .ok false) ↔ '\r' ∉ text := by
  rw [← Text.unifyLineEnds_eq_self_iff]
  constructor
  · intro hupdate
    have hread := (readText?_of_update_false hupdate).2
    rw [readText?_of_text h] at hread
    exact Option.some.inj (Except.ok.inj hread)
  · intro hunified
    refine update_of_same ?_
    rw [readText?_of_text h, hunified]

/-- A text that is not what the file reads as is written, and exactly if it has no carriage
return. -/
theorem HasRoom.updatesExactly {known : Option (List Char)} (h : HasRoom t p)
    (hhere : t.node? t.here = some .directory) (hread : t.readText? p = .ok known)
    (hknown : known ≠ some text) (hreturn : '\r' ∉ text) :
    ∃ t' written, UpdatesExactly t p text t' written := by
  obtain ⟨t', hstore⟩ := h.store hhere (Utf8.encodeChars text)
  have hwritten := read_of_store hstore
  refine ⟨t', true, update_of_other hread hknown hstore, hwritten, ?_,
    (update_settled_iff hwritten).2 hreturn⟩
  simp only [true_iff]
  intro hsame
  rw [readText?_of_text hsame, Text.unifyLineEnds_eq_self_iff.2 hreturn] at hread
  exact hknown (Except.ok.inj hread).symm

/-- A new file holds the text exactly if no line end needs translation and there is room for it. -/
theorem updatesExactly_iff_of_absent (hhere : t.node? t.here = some .directory)
    (h : t.pathExists p = .ok false) :
    (∃ t' written, UpdatesExactly t p text t' written) ↔ '\r' ∉ text ∧ HasRoom t p := by
  have hread := readText?_of_absent h
  constructor
  · rintro ⟨t', written, hexact⟩
    refine ⟨(update_settled_iff hexact.reads).1 hexact.settles, ?_⟩
    cases written with
    | true => exact hasRoom_of_store (store_of_update_true hexact.runs)
    | false => cases hread.symm.trans (readText?_of_update_false hexact.runs).2
  · rintro ⟨hreturn, hroom⟩
    exact hroom.updatesExactly hhere hread (by simp) hreturn

/-- A file with a text is updated exactly if the new text has no carriage return and the old one
does not differ from it in line ends only. -/
theorem updatesExactly_iff_of_text (hhere : t.node? t.here = some .directory)
    (h : t.read p = .ok (Utf8.encodeChars known)) :
    (∃ t' written, UpdatesExactly t p text t' written) ↔
      '\r' ∉ text ∧ (Text.unifyLineEnds known = text → known = text) := by
  have hread := readText?_of_text h
  constructor
  · rintro ⟨t', written, hexact⟩
    refine ⟨(update_settled_iff hexact.reads).1 hexact.settles, ?_⟩
    rintro rfl
    obtain ⟨rfl, -⟩ := Prod.mk.inj ((update_of_same hread).symm.trans hexact.runs)
    exact Utf8.encodeChars_injective (Except.ok.inj (h.symm.trans hexact.reads))
  · rintro ⟨hreturn, hspelled⟩
    by_cases hsame : Text.unifyLineEnds known = text
    · obtain rfl := hspelled hsame
      have hsettled := (update_settled_iff h).2 hreturn
      exact ⟨t, false, hsettled, h, by simp [h], hsettled⟩
    · obtain ⟨place, hplace, hnode⟩ := file_of_read h
      exact (hasRoom_of_file hplace hnode).updatesExactly hhere hread (by simpa using hsame) hreturn

/-- An update of a file that is there as a text, or of one that is not there yet, is exact as long
as the text is free of carriage returns, there is room for the file, and a file that reads as the
text is spelled like it. -/
theorem updatesExactly_iff (hhere : t.node? t.here = some .directory)
    (hp : t.pathExists p = .ok false ∨ ∃ known, t.read p = .ok (Utf8.encodeChars known)) :
    (∃ t' written, UpdatesExactly t p text t' written) ↔
      '\r' ∉ text ∧ (t.pathExists p = .ok false → HasRoom t p) ∧
        ∀ known, t.read p = .ok (Utf8.encodeChars known) → Text.unifyLineEnds known = text →
          known = text := by
  obtain habsent | ⟨known, hread⟩ := hp
  · rw [updatesExactly_iff_of_absent hhere habsent]
    have hnone : ∀ known, t.read p ≠ .ok (Utf8.encodeChars known) := fun known hread =>
      nomatch habsent.symm.trans (pathExists_of_read hread)
    simp [habsent, hnone]
  · rw [updatesExactly_iff_of_text hhere hread]
    have hthere : t.pathExists p ≠ .ok false := fun habsent =>
      nomatch habsent.symm.trans (pathExists_of_read hread)
    have hself : ∀ other, t.read p = .ok (Utf8.encodeChars other) → other = known := fun other h =>
      Utf8.encodeChars_injective (Except.ok.inj (h.symm.trans hread))
    constructor
    · rintro ⟨hreturn, hspelled⟩
      refine ⟨hreturn, fun habsent => absurd habsent hthere, fun other h => ?_⟩
      rwa [hself other h]
    · rintro ⟨hreturn, -, hspelled⟩
      exact ⟨hreturn, hspelled known hread⟩

/-- A text that ends its lines with line feeds goes into a directory that is yet to be made. -/
theorem updatesExactly_iff_below :
    let t := ({} : FileTree).put ["w"] .directory
    let p : Path := ⟨"/", ["w", "..", "out", "a.py"]⟩
    t.node? t.here = some .directory ∧ t.pathExists p = .ok false ∧
      ∃ t' written, UpdatesExactly t p ['é', '\n'] t' written := by
  intro t p
  have hhere : t.node? t.here = some .directory := by decide
  have habsent : t.pathExists p = .ok false := by decide
  have hunread : t.read p = .error ⟨.notFound, p⟩ := by decide
  refine ⟨hhere, habsent, (updatesExactly_iff hhere (.inl habsent)).2 ⟨by decide, fun _ => ?_,
    fun known hread => nomatch hunread.symm.trans hread⟩⟩
  exact {
    nameable := ⟨by decide, by decide, by decide⟩
    free := fun place hplace content hcontent => by
      have hnodes : ∀ place ∈ t.wayTo p,
          t.node? place = some .directory ∨ t.node? place = none := by decide
      obtain h | h := hnodes place hplace <;> cases h.symm.trans hcontent
    noDirectory := by decide
    apart := by decide }

/-- A file that differs from a text in the spelling of its line end alone is taken for the text. -/
theorem line_end_kept :
    let t := ({} : FileTree).put ["f.txt"] (.file [97, 13, 10])
    let p : Path := ⟨"", ["f.txt"]⟩
    t.node? t.here = some .directory ∧ t.read p = .ok (Utf8.encodeChars ['a', '\r', '\n']) ∧
      t.update p ['a', '\n'] = (t, .ok false) ∧ t.read p ≠ .ok (Utf8.encodeChars ['a', '\n']) := by
  decide

/-- A text with a carriage return is written again and again. -/
example :
    let t := ({} : FileTree).put ["f.txt"] (.file [97, 13, 10])
    t.update ⟨"", ["f.txt"]⟩ ['a', '\r', '\n'] = (t, .ok true) := by
  decide

end Bindery.FileTree
