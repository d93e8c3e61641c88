import Bindery.Proofs.Generator.Runs
import Bindery.Proofs.Library.Source
/-!
# Claimed file names

Before anything is written every file name is claimed for the library of its source. Claims that
were made stay, so a name belongs to one library, and with that to one source. A name also tells
its language, because the endings of the languages differ.
-/
namespace Bindery

open Outcome

namespace Owners

/-- Whoever owns a file still does. -/
def Keeps (owners owners' : Owners) : Prop :=
  ∀ filename library, owners.get? filename = some library → owners'.get? filename = some library

theorem Keeps.refl (owners : Owners) : Keeps owners owners := fun _ _ => id

theorem Keeps.trans {owners owners' owners'' : Owners} (h : Keeps owners owners')
    (h' : Keeps owners' owners'') : Keeps owners owners'' :=
  fun filename library hget => h' filename library (h filename library hget)

/-- A name that is claimed belongs to the library that claims it, and no other claim is lost. -/
theorem keeps_claim {library : String} {owners owners' : Owners} {output : String × String}
    (h : claim library owners output = .ok owners') :
    Keeps owners owners' ∧ owners'.get? output.2 = some library := by
  obtain ⟨language, filename⟩ := output
  cases hget : owners.get? filename with
  | none =>
    simp only [claim, hget, Except.ok.injEq] at h
    subst h
    refine ⟨fun other owner hother => ?_, by simp [Table.get?_insert]⟩
    have hne : other ≠ filename := by
      rintro rfl
      rw [hget] at hother
      cases hother
    rw [Table.get?_insert, if_neg hne, hother]
  | some owner =>
    simp only [claim, hget] at h
    split at h
    · rename_i hsame
      obtain rfl := Except.ok.inj h
      exact ⟨.refl owners, hsame ▸ hget⟩
    · cases h

/-- The files of a source belong to its library. -/
def OwnedBy (g : Generator σ) (s : Source) (owners : Owners) : Prop :=
  ∃ outputs, g.filenames s = .ok outputs ∧
    ∀ output ∈ outputs, owners.get? output.2 = some s.library

/-- A source that has claimed its files owns all of them. -/
theorem keeps_claimAll {g : Generator σ} {owners owners' : Owners} {s : Source}
    (h : claimAll g owners s = .ok owners') : Keeps owners owners' ∧ OwnedBy g s owners' := by
  obtain ⟨outputs, houtputs, hfold⟩ := bind_eq_ok.1 h
  obtain ⟨hkeeps, hall⟩ := forall_of_foldlM (R := Keeps)
    (P := fun (output : String × String) (owners : Owners) =>
      owners.get? output.2 = some s.library)
    Keeps.refl (fun _ _ _ => Keeps.trans) (fun output _ _ hget hkeeps => hkeeps _ _ hget)
    (fun _ _ _ => keeps_claim) hfold
  exact ⟨hkeeps, outputs, houtputs, hall⟩

/-- In the end every source has its files. -/
theorem ownedBy_of_claims {g : Generator σ} {owners owners' : Owners} {sources : List Source}
    (h : sources.foldlM (claimAll g) owners = .ok owners') :
    ∀ s ∈ sources, OwnedBy g s owners' :=
  (forall_of_foldlM (R := Keeps) (P := OwnedBy g) Keeps.refl (fun _ _ _ => Keeps.trans)
    (fun _ _ _ ⟨outputs, houtputs, hall⟩ hkeeps =>
      ⟨outputs, houtputs, fun output houtput => hkeeps _ _ (hall output houtput)⟩)
    (fun _ _ _ => keeps_claimAll) h).2

end Owners

/-- There is one writer for each language. -/
theorem Writer.forLanguage_eq_ok {language : String} {writer : Writer} :
    Writer.forLanguage language = .ok writer ↔ writer.language = language := by
  unfold forLanguage
  constructor
  · intro h
    split at h
    · rename_i found hfound
      obtain rfl := Except.ok.inj h
      simpa using List.find?_some hfound
    · cases h
  · rintro rfl
    cases writer <;> rfl

/-- The ending of a file name tells its writer. -/
theorem Writer.eq_of_outputFilename {writer writer' : Writer} {c c' : Section} {i i' : Interface}
    {filename : String} (h : writer.outputFilename c i = .ok filename)
    (h' : writer'.outputFilename c' i' = .ok filename) : writer = writer' := by
  have hlast : ∀ {writer : Writer} {c : Section} {i : Interface},
      writer.outputFilename c i = .ok filename →
        filename.toList.getLast? = writer.extension.toList.getLast? := by
    intro writer c i h
    have hname : ∃ stem, stem ++ "." ++ writer.extension = filename := by
      unfold outputFilename at h
      split at h
      · obtain ⟨stem, -, hname⟩ := bind_eq_ok.1 h
        exact ⟨stem, Except.ok.inj hname⟩
      · exact ⟨_, Except.ok.inj h⟩
    obtain ⟨stem, rfl⟩ := hname
    cases writer <;> simp [extension]
  have hsame := (hlast h).symm.trans (hlast h')
  cases writer <;> cases writer' <;> first | rfl | exact absurd hsame (by decide)

namespace Generator

variable {writers : List Writer} {r : Request} {t : FileTree} {found chosen : List Source}
  {owners : Owners}

/-- The file of a source and a writer belongs to the library of the source. -/
theorem Prepares.owner (h : Prepares writers r t found chosen owners) {s : Source}
    (hs : s ∈ chosen) {writer : Writer} (hwriter : writer ∈ writers) {filename : String}
    (hname : writer.outputFilename (s.config.sectionFor writer.language) s.interface =
      .ok filename) : owners.get? filename = some s.library := by
  obtain ⟨outputs, houtputs, hall⟩ := Owners.ownedBy_of_claims h.claimed s hs
  obtain ⟨output, houtput, hmade⟩ := exists_right (mapM_eq_ok.1 houtputs) hwriter
  rw [outputOf, hname] at hmade
  obtain rfl := Except.ok.inj hmade
  exact hall _ houtput

/-- No two sources that are generated share a library. -/
theorem Prepares.eq_of_library (h : Prepares writers r t found chosen owners) {s s' : Source}
    (hs : s ∈ chosen) (hs' : s' ∈ chosen) (hlibrary : s.library = s'.library) : s = s' := by
  have hfound := Request.mem_of_select h.selected
  exact List.inj_on_of_nodup_map (Library.nodup_libraries h.sources) (hfound hs) (hfound hs')
    hlibrary

/-- A file name is written for one source in one language. -/
theorem Prepares.unique (h : Prepares writers r t found chosen owners) {s s' : Source}
    (hs : s ∈ chosen) (hs' : s' ∈ chosen) {writer writer' : Writer} (hwriter : writer ∈ writers)
    (hwriter' : writer' ∈ writers) {filename : String}
    (hname : writer.outputFilename (s.config.sectionFor writer.language) s.interface =
      .ok filename)
    (hname' : writer'.outputFilename (s'.config.sectionFor writer'.language) s'.interface =
      .ok filename) : s = s' ∧ writer = writer' :=
  ⟨h.eq_of_library hs hs' (Option.some.inj
    ((h.owner hs hwriter hname).symm.trans (h.owner hs' hwriter' hname'))),
    Writer.eq_of_outputFilename hname hname'⟩

end Generator
end Bindery
