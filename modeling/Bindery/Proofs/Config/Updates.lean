import Bindery.Proofs.Config.Document
import Bindery.Proofs.Table
/-!
# Runs of updates

What the sections of a document say after any updates. The first update that tells a missing name
gives it, each external namespace that has no package yet gets one of its own name, and whatever is
there stays. So an update that came before changes nothing when it comes again.
-/
namespace Bindery

/-- An interface that has a public name. -/
structure NamedInterface where
  interface : Interface
  name : String
  named : interface.namespaceName = .ok name

namespace Config

/-- Settings learn the name of a library file or an interface, or are asked for a language. -/
inductive Update where
  | cdylibName (name : String)
  | interface (i : NamedInterface)
  | language (language : String)

namespace Update

def cdylibName? : Update → Option String
  | cdylibName name => some name
  | _ => none

def publicName? : Update → Option String
  | interface i => some i.name
  | _ => none

/-- The namespaces of other libraries that an update tells. -/
def namespaces : Update → List String
  | interface i => i.interface.externalNamespaces
  | _ => []

end Update
end Config

open Config

variable {updates : List Update} {u : Update} {language : String}

namespace Section

/-- What an interface with a public name adds. -/
def withNamed (i : NamedInterface) (s : Section) : Section :=
  { s with
    moduleName := some (s.moduleName.getD i.name)
    externalPackages :=
      i.interface.externalNamespaces.foldl (fun t name => t.insertNew name name)
        s.externalPackages }

def apply (s : Section) : Update → Section
  | .cdylibName name => s.withCdylibName name
  | .interface i => s.withNamed i
  | .language _ => s

def after (s : Section) (updates : List Update) : Section := updates.foldl apply s

theorem withInterface_named (i : NamedInterface) (s : Section) :
    s.withInterface i.interface = .ok (s.withNamed i) := by
  unfold withInterface withNamed
  cases s.moduleName with
  | none => simp [i.named, bind, Except.bind, pure, Except.pure]
  | some name => rfl

/-- What a section that starts as `s` says after updates. -/
structure Settled (s : Section) (updates : List Update) (s' : Section) : Prop where
  language : s'.language = s.language
  moduleName : s'.moduleName = s.moduleName.or (updates.findSome? Update.publicName?)
  cdylibName : s'.cdylibName = s.cdylibName.or (updates.findSome? Update.cdylibName?)
  packageName : s'.packageName = s.packageName
  externalPackages : ∀ name, s'.externalPackages.get? name =
    (s.externalPackages.get? name).or
      (if ∃ u ∈ updates, name ∈ u.namespaces then some name else none)
  renames : s'.renames = s.renames

variable {s s' : Section}

@[simp] theorem language_apply (s : Section) (u : Update) : (s.apply u).language = s.language := by
  cases u <;> rfl

@[simp] theorem packageName_apply (s : Section) (u : Update) :
    (s.apply u).packageName = s.packageName := by
  cases u <;> rfl

@[simp] theorem renames_apply (s : Section) (u : Update) : (s.apply u).renames = s.renames := by
  cases u <;> rfl

@[simp] theorem moduleName_apply (s : Section) (u : Update) :
    (s.apply u).moduleName = s.moduleName.or u.publicName? := by
  cases u with
  | interface i => cases h : s.moduleName <;> simp [apply, withNamed, Update.publicName?, h]
  | _ => simp [apply, withCdylibName, Update.publicName?]

@[simp] theorem cdylibName_apply (s : Section) (u : Update) :
    (s.apply u).cdylibName = s.cdylibName.or u.cdylibName? := by
  cases u with
  | cdylibName name =>
    cases h : s.cdylibName <;> simp [apply, withCdylibName, Update.cdylibName?, h]
  | _ => simp [apply, withNamed, Update.cdylibName?]

@[simp] theorem externalPackages_apply (s : Section) (u : Update) (name : String) :
    (s.apply u).externalPackages.get? name =
      (s.externalPackages.get? name).or (if name ∈ u.namespaces then some name else none) := by
  cases u with
  | interface i =>
    rw [apply, withNamed, Table.get?_foldl_insertNew, Update.namespaces]
  | _ => simp [apply, withCdylibName, Update.namespaces]

theorem findSome?_cons_eq_or {α β : Type} (f : α → Option β) (a : α) (rest : List α) :
    (a :: rest).findSome? f = (f a).or (rest.findSome? f) := by
  cases h : f a <;> simp [h]

/-- One update in front of the others. -/
theorem Settled.cons (h : Settled (s.apply u) updates s') : Settled s (u :: updates) s' where
  language := by rw [h.language, language_apply]
  moduleName := by rw [h.moduleName, moduleName_apply, findSome?_cons_eq_or, Option.or_assoc]
  cdylibName := by rw [h.cdylibName, cdylibName_apply, findSome?_cons_eq_or, Option.or_assoc]
  packageName := by rw [h.packageName, packageName_apply]
  externalPackages name := by
    rw [h.externalPackages, externalPackages_apply, Option.or_assoc]
    congr 1
    by_cases hname : name ∈ u.namespaces <;> simp [hname]
  renames := by rw [h.renames, renames_apply]

/-- After any updates a section says what it said before, or else what the first update told. -/
theorem settled_after (s : Section) (updates : List Update) :
    Settled s updates (s.after updates) := by
  induction updates generalizing s with
  | nil => exact ⟨rfl, by simp [after], by simp [after], rfl, by simp [after], rfl⟩
  | cons u updates ih => exact (ih (s.apply u)).cons

/-- An update that came before changes nothing. -/
theorem Settled.apply_of_mem (h : Settled s updates s') (hu : u ∈ updates) : s'.apply u = s' := by
  cases u with
  | cdylibName name =>
    have hknown : (updates.findSome? Update.cdylibName?).isSome :=
      List.findSome?_isSome_iff.2 ⟨_, hu, rfl⟩
    obtain ⟨known, hknown⟩ : ∃ known, s'.cdylibName = some known := by
      rw [← Option.isSome_iff_exists, h.cdylibName]
      simp [hknown]
    simp only [apply, withCdylibName, hknown, Option.getD_some]
    rw [← hknown]
  | interface i =>
    have hknown : (updates.findSome? Update.publicName?).isSome :=
      List.findSome?_isSome_iff.2 ⟨_, hu, rfl⟩
    obtain ⟨known, hknown⟩ : ∃ known, s'.moduleName = some known := by
      rw [← Option.isSome_iff_exists, h.moduleName]
      simp [hknown]
    have hnamespaces : ∀ name ∈ i.interface.externalNamespaces,
        name ∈ s'.externalPackages.keys := by
      intro name hname
      have hseen : ∃ u ∈ updates, name ∈ u.namespaces := ⟨_, hu, hname⟩
      rw [Table.mem_keys_iff, ← Option.isSome_iff_exists, h.externalPackages, if_pos hseen]
      simp
    simp only [apply, withNamed, hknown, Option.getD_some, Table.foldl_insertNew_of_mem hnamespaces]
    rw [← hknown]
  | language language => rfl

/-- To repeat an update changes nothing. -/
theorem apply_apply_self (s : Section) (u : Update) : (s.apply u).apply u = s.apply u :=
  (settled_after s [u]).apply_of_mem List.mem_cons_self

/-- The two kinds of update can change places. -/
theorem withNamed_withCdylibName (s : Section) (name : String) (i : NamedInterface) :
    (s.withCdylibName name).withNamed i = (s.withNamed i).withCdylibName name := by
  simp only [withNamed, withCdylibName]

end Section

namespace Config

variable {c : Config} {s : Section}

def apply (c : Config) : Update → Config
  | .cdylibName name => c.withCdylibName name
  | .interface i => (c.withInterface i.interface).1
  | .language language => c.withLanguage language

def after (c : Config) (updates : List Update) : Config := updates.foldl apply c

theorem withInterface_named (c : Config) (i : NamedInterface) :
    c.withInterface i.interface = (⟨c.sections.map (Section.withNamed i)⟩, .ok ()) := by
  simp only [withInterface, Table.update_eq_map (Section.withInterface_named i)]

/-- An update of a document is one of each of its sections. -/
theorem get?_apply (h : c.sections.get? language = some s) (u : Update) :
    (c.apply u).sections.get? language = some (s.apply u) := by
  cases u with
  | cdylibName name => simp [apply, withCdylibName, Table.get?_map, h, Section.apply]
  | interface i => simp [apply, withInterface_named, Table.get?_map, h, Section.apply]
  | language other => simp [apply, withLanguage, Table.get?_insertNew, h, Section.apply]

theorem get?_after (h : c.sections.get? language = some s) (updates : List Update) :
    (c.after updates).sections.get? language = some (s.after updates) := by
  induction updates generalizing c s with
  | nil => exact h
  | cons u updates ih => exact ih (get?_apply h u)

theorem apply_apply_self (c : Config) (u : Update) : (c.apply u).apply u = c.apply u := by
  cases u with
  | cdylibName name =>
    have hsection : (fun s => Section.withCdylibName s name) ∘ (Section.withCdylibName · name) =
      (Section.withCdylibName · name) := funext fun s => s.apply_apply_self (.cdylibName name)
    simp only [apply, withCdylibName, Table.map_map, hsection]
  | interface i =>
    have hsection : Section.withNamed i ∘ Section.withNamed i = Section.withNamed i :=
      funext fun s => s.apply_apply_self (.interface i)
    simp only [apply, withInterface_named, Table.map_map, hsection]
  | language language =>
    have hmem : language ∈ (c.withLanguage language).sections.keys := by
      rw [Table.mem_keys_iff, ← Option.isSome_iff_exists, withLanguage, Table.get?_insertNew]
      simp
    simp only [apply]
    rw [withLanguage, Table.insertNew_of_mem hmem]

theorem apply_interface_cdylibName (c : Config) (name : String) (i : NamedInterface) :
    (c.apply (.cdylibName name)).apply (.interface i) =
      (c.apply (.interface i)).apply (.cdylibName name) := by
  have hsection : Section.withNamed i ∘ (fun s => Section.withCdylibName s name) =
      (fun s => Section.withCdylibName s name) ∘ Section.withNamed i :=
    funext fun s => s.withNamed_withCdylibName name i
  simp only [apply, withInterface_named, withCdylibName, Table.map_map, hsection]

/-- The languages that are asked for have sections, empty ones where the document has none. -/
theorem get?_withLanguages (c : Config) (languages : List String) (language : String) :
    (c.withLanguages languages).sections.get? language =
      (c.sections.get? language).or
        (if language ∈ languages then some (.empty language) else none) := by
  have hsections : (c.withLanguages languages).sections =
      languages.foldl (fun t language => t.insertNew language (.empty language)) c.sections := by
    unfold withLanguages
    induction languages generalizing c with
    | nil => rfl
    | cons first rest ih => exact ih (c.withLanguage first)
  rw [hsections, Table.get?_foldl_insertNew]

/-- What a document says about a language. -/
def given (document : Json) (language : String) : Section :=
  ((sectionsOf document).get? language).getD (.empty language)

theorem get?_of_ofJson {languages : List String} {document : Json}
    (h : ofJson languages document = .ok c) (hlanguage : language ∈ c.sections.keys) :
    c.sections.get? language = some (given document language) := by
  obtain ⟨-, rfl⟩ := ofJson_eq_ok.1 h
  obtain ⟨s, hs⟩ := (Table.mem_keys_iff _ _).1 hlanguage
  rw [hs]
  rw [get?_withLanguages] at hs
  unfold given
  cases hgiven : (sectionsOf document).get? language with
  | some known => simpa [hgiven] using hs.symm
  | none =>
    rw [hgiven, Option.none_or, Option.ite_none_right_eq_some] at hs
    simpa using hs.2.symm

/-- In every section that a read document starts with, what the document says stays through all
updates, and what it does not say is settled by the first update that tells it; packages are added
for those external namespaces that had none. No update fails, one that came before changes nothing
when it comes again, and the two kinds of updates can change places. -/
theorem explicit_settings_win {languages : List String} {document : Json} {c : Config}
    (h : ofJson languages document = .ok c) (updates : List Update) :
    (∀ language ∈ c.sections.keys, ∃ s,
        (c.after updates).sections.get? language = some s ∧
          (given document language).Settled updates s ∧
          ∀ u ∈ updates, ((c.after updates).apply u).sections.get? language = some s) ∧
      (∀ (c : Config) (i : NamedInterface), (c.withInterface i.interface).2 = .ok ()) ∧
      (∀ (c : Config) (u : Update), (c.apply u).apply u = c.apply u) ∧
      ∀ (c : Config) (name : String) (i : NamedInterface),
        (c.apply (.cdylibName name)).apply (.interface i) =
          (c.apply (.interface i)).apply (.cdylibName name) := by
  refine ⟨fun language hlanguage => ?_, fun c i => by rw [withInterface_named], apply_apply_self,
    apply_interface_cdylibName⟩
  have hstart := get?_of_ofJson h hlanguage
  have hafter := get?_after hstart updates
  have hsettled := Section.settled_after (given document language) updates
  refine ⟨_, hafter, hsettled, fun u hu => ?_⟩
  rw [get?_apply hafter, hsettled.apply_of_mem hu]

/-- An interface that refers to two other libraries. -/
def linkedInterface : NamedInterface where
  interface := { Interface.empty "a" with
    space := some "one"
    functions := .ofList [("f", {
      modulePath := "a", name := "f"
      returns := some (.map (.external ⟨"two", "b", "R", .dataClass, false, false⟩)
        (.external ⟨"three", "c", "S", .dataClass, false, false⟩)) })] }
  name := "one"
  named := rfl

/-- A document that names a library file and one package. -/
def partialDocument : Json := .obj [
  ("format", .str "ubind-config"), ("version", .int 0),
  ("bindings", .obj [("python", .obj [
    ("cdylib_name", .str "own"), ("external_packages", .obj [("two", .str "pkg.two")])])])]

theorem explicit_settings_win_partial :
    ∃ c, ofJson ["json"] partialDocument = .ok c ∧
      ∃ s, (c.after [.cdylibName "lib", .interface linkedInterface]).sections.get? "python" =
          some s ∧
        s.cdylibName = some "own" ∧ s.moduleName = some "one" ∧
        s.externalPackages.get? "two" = some "pkg.two" ∧
        s.externalPackages.get? "three" = some "three" := by
  have hread : ofJson ["json"] partialDocument =
      .ok (withLanguages ⟨sectionsOf partialDocument⟩ ["json"]) := rfl
  have hthree : ∃ u ∈ [Update.cdylibName "lib", .interface linkedInterface],
      "three" ∈ u.namespaces := ⟨.interface linkedInterface, by simp, by decide⟩
  obtain ⟨s, hafter, hsettled, -⟩ := (explicit_settings_win hread
    [.cdylibName "lib", .interface linkedInterface]).1 "python" (by decide)
  refine ⟨_, hread, s, hafter, hsettled.cdylibName, hsettled.moduleName, ?_, ?_⟩
  · rw [hsettled.externalPackages]
    rfl
  · rw [hsettled.externalPackages, if_pos hthree]
    rfl

end Config
end Bindery
