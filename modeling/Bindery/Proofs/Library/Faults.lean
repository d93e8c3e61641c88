import Bindery.Proofs.FileTree.Faults
import Bindery.Proofs.Group.Disagreements
import Bindery.Proofs.Interface.Faults
import Bindery.Proofs.Interface.States
import Bindery.Proofs.Legacy.Scoping
import Bindery.Proofs.Library.Source
/-!
# What keeps sources from being found

Every source that is found has a public name. Whatever keeps a source from being found ends in a
report, with a few exceptions: a file cannot be looked for because its path is too long or not
given, or the bytes of a legacy file are no text.
-/
namespace Bindery

open Outcome

theorem Interface.space_of_addGroup {i i' : Interface} {g : Group}
    (h : i.addGroup g = (i', .ok ())) : i'.space = some g.space.name := by
  unfold addGroup at h
  split at h
  · cases (Prod.mk.inj h).2
  · split at h
    · cases (Prod.mk.inj h).2
    · rename_i named hnamed
      have hspace : named.space = some g.space.name := by
        unfold setNamespace at hnamed
        split at hnamed
        · obtain rfl := Except.ok.inj hnamed
          rfl
        · rename_i known hknown
          split at hnamed
          · rename_i hsame
            obtain rfl := Except.ok.inj hnamed
            rw [hknown, hsame]
          · cases hnamed
      have hgrows := (grows_offerDocstring named g.docstring).trans
        (grows_addItems (named.offerDocstring g.docstring) g.sortedItems)
      rw [h] at hgrows
      exact hgrows.space _ hspace

namespace Library

variable {t : FileTree} {ctx : Context} {groups : GroupMap} {free : List Ident}
  {entry : String × Group} {failure : Failure}

theorem space_of_assemble {library : String} {legacy : Option Group} {g : Group} {i : Interface}
    (h : assemble library legacy g = .ok i) : i.space = some g.space.name := by
  have hadd : ∀ {i₀ : Interface}, i₀.addGroups [g] = .ok i → i.space = some g.space.name := by
    intro i₀ h
    simp only [Interface.addGroups] at h
    split at h
    · rename_i hadded
      obtain rfl := Except.ok.inj h
      exact Interface.space_of_addGroup hadded
    · cases h
  have h := mapError_eq_ok.1 h
  cases legacy with
  | none => exact hadd h
  | some legacy =>
    simp only [Option.toList_some, List.singleton_append, Interface.addGroups] at h
    split at h
    · exact hadd h
    · cases h

/-- Every source has a public name. -/
theorem exists_space_of_sources {library : Path} {found : List Source}
    (h : (sources t ctx library).outcome = .ok found) {s : Source} (hs : s ∈ found) :
    ∃ name, s.interface.space = some name := by
  obtain ⟨items, groups, -, -, hfound⟩ := sources_eq_ok.1 h
  obtain ⟨entry, -, hsource⟩ := exists_left hfound hs
  simp only [source, Traced.outcome_bind, Traced.outcome_ofExcept] at hsource
  obtain ⟨legacy, -, hsource⟩ := bind_eq_ok.1 hsource
  obtain ⟨i, hi, hsource⟩ := bind_eq_ok.1 hsource
  obtain ⟨config, -, hsource⟩ := bind_eq_ok.1 hsource
  obtain rfl := Except.ok.inj hsource
  exact ⟨_, space_of_assemble hi⟩

/-- Why a legacy file is not read, though no report says so. -/
inductive UnforeseenLegacy (t : FileTree) (library : String) (root : Option Path) (g : Group) :
    Failure → Prop where
  | tooLong {file : Path} : declaredLegacy? library root g = .ok (some file) →
      t.locate file = .error .nameTooLong →
      UnforeseenLegacy t library root g (.file ⟨.nameTooLong, file⟩)
  | noText {file : Path} {bytes : List UInt8} {fault : Utf8.Fault} :
      declaredLegacy? library root g = .ok (some file) → t.read file = .ok bytes →
      Utf8.decodeChars bytes = .error fault → UnforeseenLegacy t library root g (.text fault)

theorem isFile_of_read {file : Path} {bytes : List UInt8} (h : t.read file = .ok bytes) :
    t.isFile file = .ok true := by
  obtain ⟨place, hplace, hnode⟩ := FileTree.file_of_read h
  rw [FileTree.isFile, FileTree.look, hplace]
  simp [hnode]

/-- Each exception of a legacy file is how its reading fails. -/
theorem UnforeseenLegacy.fails {library : String} {root : Option Path} {g : Group}
    (h : UnforeseenLegacy t library root g failure) :
    (legacyGroup t library root groups free g).outcome = .error failure := by
  cases h with
  | @tooLong file hdeclared hlong =>
    have hlook : t.isFile file = .error ⟨.nameTooLong, file⟩ :=
      map_eq_error.2 (FileTree.look_eq_error.2 ⟨hlong, rfl⟩)
    have hfile : legacyFile? t library root g = .error (.file ⟨.nameTooLong, file⟩) := by
      simp only [legacyFile?, hdeclared, hlook]
    simp only [legacyGroup, hfile]
    rfl
  | @noText file bytes fault hdeclared hread hdecode =>
    have hfile : legacyFile? t library root g = .ok (some file) := by
      simp only [legacyFile?, hdeclared, isFile_of_read hread]
    have htext : legacyText t library file = .error (.text fault) := by
      simp only [legacyText, FileTree.readText_eq_encoding.2 ⟨bytes, hread, hdecode⟩]
    simp only [legacyGroup, hfile, map_eq_pure_bind, Traced.outcome_bind, readLegacy,
      Traced.outcome_ofExcept, htext, error_bind]

/-- The settings file that is looked for. -/
def SettingsChoice.path? : SettingsChoice → Option Path → Option Path
  | file path, _ => some path
  | inRoot, some root => some (root.append settingsName)
  | inRoot, none | nameless, _ => none

/-- Why settings are not looked for, though no report says so. -/
inductive UnforeseenSettings (t : FileTree) (choice : SettingsChoice) (root : Option Path) :
    Failure → Prop where
  | nameless : choice = .nameless → UnforeseenSettings t choice root (.blank .settingsFile)
  | tooLong {file : Path} : choice.path? root = some file → t.locate file = .error .nameTooLong →
      UnforeseenSettings t choice root (.file ⟨.nameTooLong, file⟩)

variable {choice : SettingsChoice} {root : Option Path}

theorem isFile_eq_error {file : Path} {cause : Failure} :
    (t.isFile file).mapError Failure.file = .error cause ↔
      t.locate file = .error .nameTooLong ∧ cause = .file ⟨.nameTooLong, file⟩ := by
  rw [mapError_eq_error]
  constructor
  · rintro ⟨fault, hfault, rfl⟩
    obtain ⟨hlong, rfl⟩ := FileTree.look_eq_error.1 (map_eq_error.1 hfault)
    exact ⟨hlong, rfl⟩
  · rintro ⟨hlong, rfl⟩
    exact ⟨_, map_eq_error.2 (FileTree.look_eq_error.2 ⟨hlong, rfl⟩), rfl⟩

theorem UnforeseenSettings.settingsFile? (h : UnforeseenSettings t choice root failure) :
    settingsFile? t choice root = .error failure := by
  cases h with
  | nameless hchoice =>
    subst hchoice
    rfl
  | tooLong hpath hlong =>
    cases choice with
    | nameless => cases hpath
    | file path =>
      obtain rfl := Option.some.inj hpath
      exact bind_eq_error.2 (.inl (isFile_eq_error.2 ⟨hlong, rfl⟩))
    | inRoot =>
      cases root with
      | none => cases hpath
      | some root =>
        obtain rfl := Option.some.inj hpath
        exact bind_eq_error.2 (.inl (isFile_eq_error.2 ⟨hlong, rfl⟩))

theorem UnforeseenSettings.configure {library : String} {i : Interface}
    (h : UnforeseenSettings t ctx.config (ctx.roots.get? library) failure) :
    configure t ctx library i = .error failure := by
  have hsettings : settings t ctx.languages ctx.config (ctx.roots.get? library) =
      .error failure := by
    simp only [settings, h.settingsFile?]
  simp only [Library.configure, hsettings]
  cases h <;> rfl

/-- Why the source of a library is not found, though no report says so. -/
inductive UnforeseenSource (t : FileTree) (ctx : Context) (groups : GroupMap) (free : List Ident)
    (entry : String × Group) (failure : Failure) : Prop where
  | legacy (h : UnforeseenLegacy t entry.1 (ctx.roots.get? entry.1) entry.2 failure)
  | settings {legacy : Option Group} {i : Interface}
      (hlegacy : (legacyGroup t entry.1 (ctx.roots.get? entry.1) (some groups) free
        entry.2).outcome = .ok legacy)
      (hassemble : assemble entry.1 legacy entry.2 = .ok i)
      (h : UnforeseenSettings t ctx.config (ctx.roots.get? entry.1) failure)

/-- Each exception of a source is how its making fails. -/
theorem UnforeseenSource.fails (h : UnforeseenSource t ctx groups free entry failure) :
    (source t ctx groups free entry).outcome = .error failure := by
  simp only [source, Traced.outcome_bind, Traced.outcome_ofExcept]
  cases h with
  | legacy h => exact bind_eq_error.2 (.inl h.fails)
  | settings hlegacy hassemble h =>
    rw [hlegacy, ok_bind, hassemble, ok_bind]
    exact bind_eq_error.2 (.inl h.configure)

/-- The sources of the libraries up to one are found, and what keeps that one from being found has
no report. -/
structure Stranded (t : FileTree) (ctx : Context) (library : Path) (items : List Item)
    (groups : GroupMap) (before : List (String × Group)) (entry : String × Group)
    (failure : Failure) : Prop where
  extracted : itemsOfFile t library = .ok items
  grouped : GroupMap.ofItems items = .ok groups
  front : ∃ after, groups.sorted = before ++ entry :: after
  found : ∀ other ∈ before, ∃ s,
    (source t ctx groups (Reachability.freeIdents items false) other).outcome = .ok s
  unforeseen : UnforeseenSource t ctx groups (Reachability.freeIdents items false) entry failure

/-- A stranded source is how the search for sources fails. -/
theorem Stranded.fails {library : Path} {items : List Item} {before : List (String × Group)}
    (h : Stranded t ctx library items groups before entry failure) :
    (sources t ctx library).outcome = .error failure := by
  obtain ⟨after, hsorted⟩ := h.front
  obtain ⟨found, hfound⟩ := exists_related h.found
  have hitems : (extract t library).outcome = .ok items := by
    rw [outcome_extract, h.extracted]
    rfl
  simp only [sources, sourcesOfItems, Traced.outcome_bind, outcome_mapM]
  rw [hitems, ok_bind, group_eq_ok.2 h.grouped, ok_bind]
  exact bind_eq_error.2 (.inl (mapM_eq_error.2
    ⟨before, entry, after, found, hsorted, hfound, h.unforeseen.fails⟩))

end Library
end Bindery
