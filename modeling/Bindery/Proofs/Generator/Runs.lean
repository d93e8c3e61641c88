import Bindery.Generator.Builtin
import Bindery.Proofs.FileTree.Updates
import Bindery.Proofs.Order
/-!
# Runs that end well

What a run of the built-in generator that ends well went through: the library was accepted, its
sources were found and selected, each file name was claimed for a library, and after the output
directory the files were brought up to date, source by source and language by language.
-/
namespace Bindery

open Outcome

/-- The run ends well, leaves the files of `w'` and answers `a`. -/
def Run.Ends (x : Run σ α) (w w' : World σ) (a : α) : Prop :=
  (x w).1 = w' ∧ (x w).2.outcome = .ok a

namespace Run

variable {σ α β : Type} {x : Run σ α} {w w' : World σ} {a : α} {b : β}

/-- Two steps in a row end well if the first does, and the second after it. -/
theorem ends_bind {f : α → Run σ β} :
    (x >>= f).Ends w w' b ↔ ∃ w₁ a, x.Ends w w₁ a ∧ (f a).Ends w₁ w' b := by
  unfold Ends
  rw [bind_apply]
  cases houtcome : (x w).2.outcome with
  | error failure => simp
  | ok a =>
    constructor
    · exact fun h => ⟨_, a, ⟨rfl, rfl⟩, h⟩
    · rintro ⟨_, _, ⟨rfl, ha⟩, h⟩
      obtain rfl := Except.ok.inj ha
      exact h

theorem ends_pure {c : α} : (pure c : Run σ α).Ends w w' a ↔ w' = w ∧ a = c := by
  change w = w' ∧ Except.ok c = .ok a ↔ _
  rw [Except.ok.injEq, eq_comm, @eq_comm _ c]

theorem ends_ask {f : FileTree → Traced α} :
    (ask f : Run σ α).Ends w w' a ↔ w' = w ∧ (f w.tree).outcome = .ok a := by
  rw [eq_comm]
  rfl

theorem ends_ofExcept {outcome : Except Failure α} :
    (ofExcept outcome : Run σ α).Ends w w' a ↔ w' = w ∧ outcome = .ok a := by
  rw [eq_comm]
  rfl

theorem ends_note {event : Event} : (note event : Run σ Unit).Ends w w' () ↔ w' = w := by
  change w = w' ∧ Except.ok () = .ok () ↔ _
  simp [eq_comm]

/-- A change of files ends well if it has no fault. -/
theorem ends_change {ε : Type} {explain : ε → Failure} {f : FileTree → FileTree × Except ε α} :
    (change explain f : Run σ α).Ends w w' a ↔
      ∃ tree, f w.tree = (tree, .ok a) ∧ w' = { w with tree := tree } := by
  change ({ w with tree := (f w.tree).1 } : World σ) = w' ∧
    (f w.tree).2.mapError explain = .ok a ↔ _
  rw [mapError_eq_ok]
  constructor
  · rintro ⟨rfl, h⟩
    exact ⟨_, Prod.ext rfl h, rfl⟩
  · rintro ⟨tree, h, rfl⟩
    rw [h]
    exact ⟨rfl, rfl⟩

theorem ends_mapFailure {f : Failure → Failure} : (mapFailure f x).Ends w w' a ↔ x.Ends w w' a := by
  change (x w).1 = w' ∧ (x w).2.outcome.mapError f = .ok a ↔ _
  rw [mapError_eq_ok]
  rfl

end Run

/-- The name and the text that a writer has for a source. -/
structure Writer.Makes (writer : Writer) (s : Source) (made : String × String) : Prop where
  filename : writer.outputFilename (s.config.sectionFor writer.language) s.interface = .ok made.1
  text : writer.render (s.config.sectionFor writer.language) s.interface = .ok made.2

/-- The updates below a directory that store files with these names and texts. -/
def updatesBelow (outDir : Path) (made : List (String × String)) : List (Path × List Char) :=
  made.map fun entry => (outDir.append entry.1, entry.2.toList)

/-- The step stores files below a directory and does nothing else; `P` tells which ones. -/
def Run.Stores (x : Run σ Unit) (outDir : Path) (P : List (String × String) → Prop) : Prop :=
  ∀ w w', x.Ends w w' () ↔ ∃ made tree, P made ∧
    FileTree.Updated w.tree (updatesBelow outDir made) tree ∧ w' = { w with tree := tree }

section

variable {σ : Type} {x y : Run σ Unit} {outDir : Path} {s : Source}
  {P Q : List (String × String) → Prop}

theorem Run.stores_pure : (pure () : Run σ Unit).Stores outDir (· = []) := by
  intro w w'
  rw [ends_pure]
  constructor
  · rintro ⟨rfl, -⟩
    exact ⟨[], w'.tree, rfl, .nil _, rfl⟩
  · rintro ⟨_, tree, rfl, hupdated, rfl⟩
    cases hupdated
    exact ⟨rfl, rfl⟩

theorem Run.Stores.congr (h : x.Stores outDir P) (hPQ : ∀ made, P made ↔ Q made) :
    x.Stores outDir Q := by
  intro w w'
  simp only [← hPQ]
  exact h w w'

/-- Two steps in a row store the files of both, in this order. -/
theorem Run.Stores.andThen (hx : x.Stores outDir P) (hy : y.Stores outDir Q) :
    (x >>= fun _ => y).Stores outDir fun made =>
      ∃ first rest, P first ∧ Q rest ∧ made = first ++ rest := by
  intro w w'
  rw [ends_bind]
  constructor
  · rintro ⟨w₁, _, hfirst, hrest⟩
    obtain ⟨first, tree, hP, hupdated, rfl⟩ := (hx w w₁).1 hfirst
    obtain ⟨rest, tree', hQ, hupdated', rfl⟩ := (hy _ w').1 hrest
    refine ⟨first ++ rest, tree', ⟨first, rest, hP, hQ, rfl⟩, ?_, rfl⟩
    rw [updatesBelow, List.map_append]
    exact FileTree.updated_append_iff.2 ⟨tree, hupdated, hupdated'⟩
  · rintro ⟨_, tree', ⟨first, rest, hP, hQ, rfl⟩, hupdated, rfl⟩
    rw [updatesBelow, List.map_append] at hupdated
    obtain ⟨tree, hfirst, hrest⟩ := FileTree.updated_append_iff.1 hupdated
    exact ⟨{ w with tree := tree }, (), (hx _ _).2 ⟨first, tree, hP, hfirst, rfl⟩,
      (hy _ _).2 ⟨rest, tree', hQ, hrest, rfl⟩⟩

/-- A writer stores its one file. -/
theorem Writer.stores_write (writer : Writer) :
    (writer.write s outDir : Run σ Unit).Stores outDir fun made =>
      ∃ entry, writer.Makes s entry ∧ made = [entry] := by
  intro w w'
  simp only [Writer.write, Run.ends_bind, Run.ends_ofExcept, Run.ends_change, Run.ends_note,
    mapError_eq_ok]
  constructor
  · rintro ⟨_, filename, ⟨rfl, hname⟩, _, text, ⟨rfl, htext⟩, _, written, ⟨tree, hupdate, rfl⟩, rfl⟩
    exact ⟨_, tree, ⟨(filename, text), ⟨hname, htext⟩, rfl⟩, .cons hupdate (.nil tree), rfl⟩
  · rintro ⟨_, tree, ⟨⟨filename, text⟩, ⟨hname, htext⟩, rfl⟩, hupdated, rfl⟩
    cases hupdated with
    | cons hupdate hrest =>
      cases hrest
      exact ⟨w, filename, ⟨rfl, hname⟩, w, text, ⟨rfl, htext⟩, _, _, ⟨tree, hupdate, rfl⟩, rfl⟩

namespace Generator

/-- The names and texts that some writers have for a source, in their order. -/
abbrev MadeBy (writers : List Writer) (s : Source) (made : List (String × String)) : Prop :=
  List.Forall₂ (fun writer entry => writer.Makes s entry) writers made

/-- The names and texts that some writers have for some sources, source after source. -/
abbrev MadeFor (writers : List Writer) (sources : List Source) (made : List (String × String)) :
    Prop :=
  ∃ parts, List.Forall₂ (MadeBy writers) sources parts ∧ made = parts.flatten

theorem madeBy_cons {writer : Writer} {writers : List Writer} {made : List (String × String)} :
    (∃ first rest, (∃ entry, writer.Makes s entry ∧ first = [entry]) ∧ MadeBy writers s rest ∧
      made = first ++ rest) ↔ MadeBy (writer :: writers) s made := by
  rw [MadeBy, List.forall₂_cons_left_iff]
  constructor
  · rintro ⟨_, rest, ⟨entry, hentry, rfl⟩, hrest, rfl⟩
    exact ⟨entry, rest, hentry, hrest, rfl⟩
  · rintro ⟨entry, rest, hentry, hrest, rfl⟩
    exact ⟨[entry], rest, ⟨entry, hentry, rfl⟩, hrest, rfl⟩

theorem madeFor_nil {writers : List Writer} {made : List (String × String)} :
    made = [] ↔ MadeFor writers [] made := by
  simp [MadeFor, List.forall₂_nil_left_iff]

theorem madeFor_cons {writers : List Writer} {sources : List Source}
    {made : List (String × String)} :
    (∃ first rest, MadeBy writers s first ∧ MadeFor writers sources rest ∧
      made = first ++ rest) ↔ MadeFor writers (s :: sources) made := by
  simp only [MadeFor, List.forall₂_cons_left_iff]
  constructor
  · rintro ⟨part, _, hpart, ⟨parts, hparts, rfl⟩, rfl⟩
    exact ⟨part :: parts, ⟨part, parts, hpart, hparts, rfl⟩, rfl⟩
  · rintro ⟨_, ⟨part, parts, hpart, hparts, rfl⟩, rfl⟩
    exact ⟨part, parts.flatten, hpart, ⟨parts, hparts, rfl⟩, rfl⟩

/-- The writers of a source store one file each. -/
theorem stores_writeWith (writers : List Writer) :
    (writeWith s outDir writers : Run σ Unit).Stores outDir (MadeBy writers s) := by
  induction writers with
  | nil => exact Run.stores_pure.congr fun made => List.forall₂_nil_left_iff.symm
  | cons writer writers ih =>
    exact ((writer.stores_write).andThen ih).congr fun made => madeBy_cons

theorem stores_writeFrom (writers : List Writer) :
    (Run.mapFailure (explainWrite outDir s) (writeWith s outDir writers) : Run σ Unit).Stores
      outDir (MadeBy writers s) := by
  intro w w'
  rw [Run.ends_mapFailure]
  exact stores_writeWith writers w w'

/-- The generation of all sources stores the files of all writers. -/
theorem stores_writeSources (writers : List Writer) (sources : List Source) :
    ((ofWriters writers).writeSources outDir sources : Run σ Unit).Stores outDir
      (MadeFor writers sources) := by
  induction sources with
  | nil => exact Run.stores_pure.congr fun made => madeFor_nil
  | cons s sources ih =>
    exact ((stores_writeFrom writers).andThen ih).congr fun made => madeFor_cons

end Generator

end

/-- Only sources that were found are selected. -/
theorem Request.mem_of_select {r : Request} {found chosen : List Source}
    (h : r.select found = .ok chosen) : chosen ⊆ found := by
  simp only [Request.select] at h
  split at h
  · cases h
  · obtain rfl := Except.ok.inj h
    exact fun s hs => List.mem_of_mem_filter hs

/-- The sources are found in a tree and selected, and every file is claimed for a library. -/
structure Generator.Prepares (writers : List Writer) (r : Request) (t : FileTree)
    (found chosen : List Source) (owners : Owners) : Prop where
  accepted : checkLibrary (writers.map Writer.language) r.library
    (Library.cdylibName r.library) = .ok ()
  sources : (Library.sources t ⟨Library.cdylibName r.library, r.config, r.roots,
    writers.map Writer.language⟩ r.library).outcome = .ok found
  selected : r.select found = .ok chosen
  claimed : chosen.foldlM (Owners.claimAll (ofWriters writers : Generator Unit)) Table.empty =
    .ok owners

variable {w w' : World Unit} {r : Request} {outDir : Path} {chosen : List Source}

/-- To prepare a run changes no file, and it ends well where all that it asks for is found and
claimed. -/
theorem Generator.ends_prepare {writers : List Writer} :
    ((ofWriters writers).prepare r).Ends w w' chosen ↔
      w' = w ∧ ∃ found owners, Prepares writers r w.tree found chosen owners := by
  simp only [prepare, Run.ends_bind, Run.ends_ofExcept, Run.ends_ask, Run.ends_pure]
  constructor
  · rintro ⟨_, _, hcheck, _, found, ⟨rfl, hfound⟩, _, _, ⟨rfl, hselected⟩, _, owners,
      ⟨rfl, hclaimed⟩, rfl, rfl⟩
    obtain ⟨rfl, haccepted⟩ := Run.ends_ofExcept.1 hcheck
    exact ⟨rfl, found, owners, haccepted, hfound, hselected, hclaimed⟩
  · rintro ⟨rfl, found, owners, haccepted, hfound, hselected, hclaimed⟩
    exact ⟨_, (), Run.ends_ofExcept.2 ⟨rfl, haccepted⟩, _, found, ⟨rfl, hfound⟩, _, chosen,
      ⟨rfl, hselected⟩, _, owners, ⟨rfl, hclaimed⟩, rfl, rfl⟩

/-- A run for some languages ends well exactly when it prepares its sources, makes the output
directory and brings every file up to date below it. -/
theorem ends_generate {languages : List String} :
    (generate languages r outDir).Ends w w' chosen ↔
      languages ≠ [] ∧ ∃ writers, (Order.distinct languages).mapM Writer.forLanguage = .ok writers ∧
        (∃ found owners, Generator.Prepares writers r w.tree found chosen owners) ∧
          ∃ made, w.tree.makeDirectories outDir = (made, .ok ()) ∧
            ∃ parts tree, List.Forall₂ (Generator.MadeBy writers) chosen parts ∧
              FileTree.Updated made (updatesBelow outDir parts.flatten) tree ∧
                w' = { w with tree := tree } := by
  simp only [generate, Run.ends_bind, Run.ends_ofExcept, Generator.forLanguages, Generator.run,
    Run.ends_change, Run.ends_pure]
  constructor
  · rintro ⟨_, g, ⟨rfl, hg⟩, _, _, hprepare, _, _, ⟨made, hmade, rfl⟩, _, _, hwritten, rfl, rfl⟩
    split at hg
    · cases hg
    rename_i hlanguages
    split at hg
    · cases hg
    rename_i writers hwriters
    obtain rfl := Except.ok.inj hg
    obtain ⟨rfl, hprepares⟩ := Generator.ends_prepare.1 hprepare
    obtain ⟨_, tree, ⟨parts, hparts, rfl⟩, hupdated, rfl⟩ :=
      (Generator.stores_writeSources writers _ _ _).1 hwritten
    exact ⟨hlanguages, writers, hwriters, hprepares, made, hmade, parts, tree, hparts, hupdated,
      rfl⟩
  · rintro ⟨hlanguages, writers, hwriters, hprepares, made, hmade, parts, tree, hparts, hupdated,
      rfl⟩
    rw [if_neg hlanguages, hwriters]
    exact ⟨w, _, ⟨rfl, rfl⟩, w, chosen, Generator.ends_prepare.2 ⟨rfl, hprepares⟩, _, (),
      ⟨made, hmade, rfl⟩, _, (), (Generator.stores_writeSources writers _ _ _).2
        ⟨_, tree, ⟨parts, hparts, rfl⟩, hupdated, rfl⟩, rfl, rfl⟩

end Bindery
