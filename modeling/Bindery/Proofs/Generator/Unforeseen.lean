import Bindery.Proofs.CommandLine
/-!
# Failures that have no report

Where no path has a null character, whatever keeps a run from ending well has a report, or is a
disagreement of names in the metadata, with a few exceptions that are told here one by one. In most
of them nobody catches what an operation on a file ends with: a legacy file, or an output that is
there already, holds bytes that are no text, or a path is too long to be looked at. The others are
a settings file that is asked for without a name, and an index that is too long to be written.

Two things are outside what is told here. A `String` holds no half of a surrogate pair, which a JSON
escape can spell; a run that meets one is left out by `Paired`. And memory and stack have no bounds,
so a document or a type may be nested as deeply as it likes.
-/
namespace Bindery

open Outcome

namespace Writer

/-- A writer refuses a source only for an index that is too long. -/
theorem Refuses.exists_longIndex {writer : Writer} {s : Source} {message : String}
    (h : writer.Refuses s message) : ∃ item ∈ s.interface.items, ¬ item.HasShortIndex := by
  obtain ⟨fault, hrender, hreport⟩ := h.text
  have hname : ∃ name, s.interface.space = some name := by
    cases hspace : s.interface.space with
    | some name => exact ⟨name, rfl⟩
    | none =>
      have hnameless : writer.render (s.config.sectionFor writer.language) s.interface =
          .error (s.interface.fault .noNamespace) := by
        cases writer with
        | json => exact Description.render_nameless hspace
        | python => simp only [render, Stub.render, Interface.namespaceName, hspace, map_error]
      obtain rfl := Except.error.inj (hnameless.symm.trans hrender)
      cases hreport
  by_contra hshort
  push Not at hshort
  obtain ⟨name, hspace⟩ := hname
  cases writer with
  | json => cases (Description.render_short hspace hshort).symm.trans hrender
  | python => simp [render, Stub.render, Interface.namespaceName, hspace] at hrender

end Writer

namespace Generator

variable {languages : List String} {writers : List Writer} {r : Request} {outDir : Path}
  {t t' : FileTree} {found chosen : List Source} {owners : Owners} {failure : Failure}

/-- The files in front of one are brought up to date, and that one is there already with bytes that
are no text. -/
structure Garbled (outDir : Path) (t : FileTree) (made front : List (String × String))
    (filename : String) (tree : FileTree) (bytes : List UInt8) : Prop where
  stored : ∃ room, t.makeDirectories outDir = (room, .ok ()) ∧
    FileTree.Updated room (updatesBelow outDir front) tree
  next : ∃ text back, made = front ++ (filename, text) :: back
  present : tree.read (outDir.append filename) = .ok bytes

/-- Why a run fails, though no report says so. -/
inductive Unforeseen (languages : List String) (r : Request) (outDir : Path) (t : FileTree) :
    Failure → Prop where
  | source {writers : List Writer} {items : List Item} {groups : GroupMap}
      {before : List (String × Group)} {entry : String × Group} {failure : Failure}
      (hspeaks : Speaks languages writers) (haccepted : Suits writers r)
      (h : Library.Stranded t (context writers r) r.library items groups before entry failure) :
      Unforeseen languages r outDir t failure
  | output {writers : List Writer} {found chosen : List Source} {owners : Owners}
      {made front : List (String × String)} {filename : String} {tree : FileTree}
      {bytes : List UInt8} {fault : Utf8.Fault} (hspeaks : Speaks languages writers)
      (hprepares : Prepares writers r t found chosen owners)
      (hplanned : Planned writers chosen made)
      (h : Garbled outDir t made front filename tree bytes)
      (hdecode : Utf8.decodeChars bytes = .error fault) :
      Unforeseen languages r outDir t (.text fault)
  | index {writers : List Writer} {found chosen : List Source} {owners : Owners} {tree : FileTree}
      {message : String} (hspeaks : Speaks languages writers)
      (hprepares : Prepares writers r t found chosen owners)
      (h : Balked writers chosen outDir t tree message) :
      Unforeseen languages r outDir t (.value message)

/-- Updates are stuck at one of their files, with all files in front of it updated. -/
theorem stuck_updatesBelow {made : List (String × String)} {cause : TextFault} :
    FileTree.Stuck t (updatesBelow outDir made) t' cause ↔ ∃ front filename text back tree,
      made = front ++ (filename, text) :: back ∧
        FileTree.Updated t (updatesBelow outDir front) tree ∧
          tree.update (outDir.append filename) text.toList = (t', .error cause) := by
  rw [FileTree.stuck_iff]
  constructor
  · rintro ⟨_, _, _, tree, hmade, hupdated, hupdate⟩
    obtain ⟨front, rest, rfl, rfl, hrest⟩ := List.map_eq_append_iff.1 hmade
    obtain ⟨⟨filename, text⟩, back, rfl, rfl, -⟩ := List.map_eq_cons_iff.1 hrest
    exact ⟨front, filename, text, back, tree, rfl, hupdated, hupdate⟩
  · rintro ⟨front, filename, text, back, tree, rfl, hupdated, hupdate⟩
    exact ⟨updatesBelow outDir front, (outDir.append filename, text.toList),
      updatesBelow outDir back, tree, by simp [updatesBelow], hupdated, hupdate⟩

/-- Each of the exceptions is how a run fails. -/
theorem Unforeseen.fails (h : Unforeseen languages r outDir t failure) :
    ∃ w', (generate languages r outDir).Fails ⟨t, ()⟩ w' failure := by
  cases h with
  | source hspeaks haccepted h =>
    exact ⟨_, Unprepared.fails (.refused hspeaks (.sources haccepted h.fails))⟩
  | index hspeaks hprepares h => exact ⟨_, Balked.fails (w := ⟨t, ()⟩) hspeaks hprepares h⟩
  | @output writers found chosen owners made front filename tree bytes fault hspeaks hprepares
      hplanned h hdecode =>
    obtain ⟨room, hroom, hupdated⟩ := h.stored
    obtain ⟨text, back, rfl⟩ := h.next
    have hupdate : tree.update (outDir.append filename) text.toList =
        (tree, .error (.encoding fault)) :=
      FileTree.update_eq_encoding.2 ⟨rfl, bytes, h.present, hdecode⟩
    have hstuck := stuck_updatesBelow.2 ⟨front, filename, text, back, tree, rfl, hupdated, hupdate⟩
    obtain ⟨failure, hexplained, hfails⟩ := Interrupted.fails (w := ⟨t, ()⟩) hspeaks hprepares
      (.file hroom hplanned hstuck)
    cases hexplained
    exact ⟨_, hfails⟩

/-- Where a text is refused, a source has an index that is too long. -/
theorem exists_longIndex_of_unmadeFor {sources : List Source} {made : List (String × String)}
    {message : String} (h : UnmadeFor writers sources made message) :
    ∃ s ∈ sources, ∃ item ∈ s.interface.items, ¬ item.HasShortIndex := by
  induction h with
  | @here s sources made message hunmade =>
    have hlong : ∃ item ∈ s.interface.items, ¬ item.HasShortIndex := by
      induction hunmade with
      | here hrefuses => exact hrefuses.exists_longIndex
      | later _ _ ih => exact ih
    exact ⟨s, List.mem_cons_self, hlong⟩
  | later _ _ ih =>
    obtain ⟨s, hs, hlong⟩ := ih
    exact ⟨s, List.mem_cons_of_mem _ hs, hlong⟩

/-- Where a text is refused, a source has an index that is too long. -/
theorem Unforeseen.exists_longIndex {message : String}
    (h : Unforeseen languages r outDir t (.value message)) : ∃ writers found chosen owners,
      Prepares writers r t found chosen owners ∧
        ∃ s ∈ chosen, ∃ item ∈ s.interface.items, ¬ item.HasShortIndex := by
  cases h with
  | source _ _ h =>
    cases h.unforeseen with
    | legacy h => cases h
    | settings _ _ h => cases h
  | index _ hprepares h =>
    cases h with
    | text _ hunmade _ => exact ⟨_, _, _, _, hprepares, exists_longIndex_of_unmadeFor hunmade⟩

end Generator

/-- A byte with which no text starts. -/
def noText : List UInt8 := [0xff]

end Bindery
