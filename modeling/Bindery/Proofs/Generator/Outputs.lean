import Bindery.Proofs.Description
import Bindery.Proofs.FileTree.Places
import Bindery.Proofs.Generator.Claims
/-!
# What the files of a run hold

A run writes one file for each of its sources and languages. The names of the files are claimed as
they are spelled, but a path has many spellings: two names may lead to one file, and then the later
text is in it. Names that are spelled as the paths that they are lead to files of their own.
-/
namespace Bindery

open Outcome

/-- A file of a run: whom it is for, its name below the output directory, and its text. -/
structure Output where
  source : Source
  language : String
  filename : String
  text : String

namespace Output

/-- The file is for one of the sources and one of the languages, and its writer makes it so. -/
structure Of (languages : List String) (chosen : List Source) (o : Output) : Prop where
  source : o.source ∈ chosen
  language : o.language ∈ languages
  made : ∃ writer, Writer.forLanguage o.language = .ok writer ∧
    writer.Makes o.source (o.filename, o.text)

def path (outDir : Path) (o : Output) : Path := outDir.append o.filename

/-- The file is there with the text and nothing else. -/
def Stored (t : FileTree) (outDir : Path) (o : Output) : Prop :=
  t.read (o.path outDir) = .ok (Utf8.encodeChars o.text.toList)

/-- The name leads to somewhere below the output directory. -/
structure Below (o : Output) : Prop where
  relative : (Path.parse o.filename).root = ""
  down : ".." ∉ (Path.parse o.filename).parts

/-- The name is also spelled as the path that it is. -/
structure Plain (o : Output) : Prop extends o.Below where
  spelled : (Path.parse o.filename).render = o.filename

/-- Where the files of a run lie in the second tree, the first one has no files. -/
def NoneBefore (languages : List String) (chosen : List Source) (outDir : Path)
    (t t' : FileTree) : Prop :=
  ∀ o : Output, o.Of languages chosen → ∀ place, t'.locate (o.path outDir) = .ok place →
    ∀ content, t.node? place ≠ some (.file content)

/-- Files of a run that lie at one place have one text. -/
def Agree (languages : List String) (chosen : List Source) (outDir : Path) (t : FileTree) : Prop :=
  ∀ a : Output, a.Of languages chosen → ∀ b : Output, b.Of languages chosen →
    t.locate (a.path outDir) = t.locate (b.path outDir) → a.text = b.text

end Output

variable {languages : List String} {r : Request} {outDir : Path} {w w' : World Unit}
  {chosen : List Source} {writers : List Writer} {a b : Output}

/-- A writer makes one file of a source. -/
theorem Writer.Makes.unique {writer : Writer} {s : Source} {made made' : String × String}
    (h : writer.Makes s made) (h' : writer.Makes s made') : made = made' :=
  Prod.ext (Except.ok.inj (h.filename.symm.trans h'.filename))
    (Except.ok.inj (h.text.symm.trans h'.text))

section

variable {parts : List (List (String × String))}
  (hwriters : (Order.distinct languages).mapM Writer.forLanguage = .ok writers)
  (hparts : List.Forall₂ (Generator.MadeBy writers) chosen parts)

include hwriters

/-- The writers are those of the languages that are asked for. -/
theorem mem_writers_iff {writer : Writer} : writer ∈ writers ↔ writer.language ∈ languages := by
  constructor
  · intro hwriter
    obtain ⟨language, hlanguage, hfor⟩ := exists_left (mapM_eq_ok.1 hwriters) hwriter
    rw [Writer.forLanguage_eq_ok.1 hfor]
    exact Order.mem_distinct.1 hlanguage
  · intro hlanguage
    obtain ⟨found, hfound, hfor⟩ :=
      exists_right (mapM_eq_ok.1 hwriters) (Order.mem_distinct.2 hlanguage)
    obtain rfl := Except.ok.inj ((Writer.forLanguage_eq_ok.2 rfl).symm.trans hfor)
    exact hfound

/-- A file name is that of one file. -/
theorem Output.eq_of_filename {t : FileTree} {found : List Source} {owners : Owners}
    (hprepares : Generator.Prepares writers r t found chosen owners)
    (ha : a.Of languages chosen) (hb : b.Of languages chosen) (h : a.filename = b.filename) :
    a = b := by
  obtain ⟨s, language, filename, text⟩ := a
  obtain ⟨s', language', filename', text'⟩ := b
  obtain rfl : filename = filename' := h
  obtain ⟨hs, hlanguage, writer, hfor, hmakes⟩ := ha
  obtain ⟨hs', hlanguage', writer', hfor', hmakes'⟩ := hb
  obtain rfl : writer.language = language := Writer.forLanguage_eq_ok.1 hfor
  obtain rfl : writer'.language = language' := Writer.forLanguage_eq_ok.1 hfor'
  obtain ⟨rfl, rfl⟩ := hprepares.unique hs hs' ((mem_writers_iff hwriters).2 hlanguage)
    ((mem_writers_iff hwriters).2 hlanguage') hmakes.filename hmakes'.filename
  obtain rfl : text = text' := (Prod.mk.inj (hmakes.unique hmakes')).2
  rfl

include hparts

/-- Every source has a file in every language. -/
theorem exists_output {s : Source} (hs : s ∈ chosen) {language : String}
    (hlanguage : language ∈ languages) :
    ∃ o : Output, o.Of languages chosen ∧ o.source = s ∧ o.language = language := by
  obtain ⟨writer, hwriter, hfor⟩ :=
    exists_right (mapM_eq_ok.1 hwriters) (Order.mem_distinct.2 hlanguage)
  obtain ⟨part, -, hmade⟩ := exists_right hparts hs
  obtain ⟨entry, -, hmakes⟩ := exists_right hmade hwriter
  exact ⟨⟨s, language, entry.1, entry.2⟩, ⟨hs, hlanguage, writer, hfor, hmakes⟩, rfl, rfl⟩

/-- The updates of a run are those of its files. -/
theorem forall_updates_iff {P : Path × List Char → Prop} :
    (∀ output ∈ updatesBelow outDir parts.flatten, P output) ↔
      ∀ o : Output, o.Of languages chosen → P (o.path outDir, o.text.toList) := by
  simp only [updatesBelow, List.forall_mem_map, List.mem_flatten]
  constructor
  · rintro h o ⟨hs, hlanguage, writer, hfor, hmakes⟩
    obtain ⟨part, hpart, hmade⟩ := exists_right hparts hs
    rw [← Writer.forLanguage_eq_ok.1 hfor] at hlanguage
    obtain ⟨entry, hentry, hmakes'⟩ := exists_right hmade ((mem_writers_iff hwriters).2 hlanguage)
    obtain rfl := hmakes.unique hmakes'
    exact h (o.filename, o.text) ⟨part, hpart, hentry⟩
  · rintro h entry ⟨part, hpart, hentry⟩
    obtain ⟨s, hs, hmade⟩ := exists_left hparts hpart
    obtain ⟨writer, hwriter, hmakes⟩ := exists_left hmade hentry
    exact h ⟨s, writer.language, entry.1, entry.2⟩ ⟨hs, (mem_writers_iff hwriters).1 hwriter,
      writer, Writer.forLanguage_eq_ok.2 rfl, hmakes⟩

/-- Where no file was before the updates, the files hold their texts exactly when those at one place
agree. -/
theorem stored_iff_agree {t t' : FileTree}
    (hupdated : FileTree.Updated t (updatesBelow outDir parts.flatten) t')
    (hnone : Output.NoneBefore languages chosen outDir t t') :
    (∀ o : Output, o.Of languages chosen → o.Stored t' outDir) ↔
      Output.Agree languages chosen outDir t' := by
  have hreads := hupdated.reads_iff ((forall_updates_iff hwriters hparts).2 hnone)
  simp only [forall_updates_iff hwriters hparts, String.toList_inj] at hreads
  exact hreads

end

attribute [ext] Path

/-- Plain names that lead to one place are one name. -/
theorem Output.filename_eq_of_locate (ha : a.Plain) (hb : b.Plain) {t : FileTree} {place : Place}
    (hplace : t.locate (a.path outDir) = .ok place)
    (hplace' : t.locate (b.path outDir) = .ok place) : a.filename = b.filename := by
  obtain ⟨start, hstart, rfl⟩ := FileTree.steps_of_locate_append ha.relative ha.down hplace
  obtain ⟨start', hstart', hparts⟩ :=
    FileTree.steps_of_locate_append hb.relative hb.down hplace'
  obtain rfl := Except.ok.inj (hstart.symm.trans hstart')
  have hsame : Path.parse a.filename = Path.parse b.filename :=
    Path.ext (ha.relative.trans hb.relative.symm) (List.append_cancel_left hparts)
  rw [← ha.spelled, ← hb.spelled, hsame]

/-- Below a directory that did not exist no file was. -/
theorem noneBefore_of_below {t t' made : FileTree} (hrooted : t.Rooted)
    (habsent : t.pathExists outDir = .ok false) (hdots : ".." ∉ outDir.parts)
    (hmade : t.makeDirectories outDir = (made, .ok ())) {outputs : List (Path × List Char)}
    (hupdated : FileTree.Updated made outputs t')
    (hbelow : ∀ o : Output, o.Of languages chosen → o.Below) :
    Output.NoneBefore languages chosen outDir t t' := by
  intro o ho place hplace content hnode
  have hroom := FileTree.makesRoom_makeDirectories t outDir
  rw [hmade] at hroom
  have hkept := hupdated.directory
  obtain ⟨top, htop⟩ := FileTree.locate_of_makeDirectories hmade
  have htop := FileTree.locate_of_directories htop hkept.1 hkept.2
  obtain ⟨start, hstart, rfl⟩ :=
    FileTree.steps_of_locate_append (hbelow o ho).relative (hbelow o ho).down hplace
  obtain rfl := Except.ok.inj (hstart.symm.trans (FileTree.steps_of_locate htop))
  rw [hrooted.absent_below habsent (hkept.1.trans hroom.here) hdots htop] at hnode
  cases hnode

/-- After a run that ends well every source has a file in every language. Where no file was before,
the files hold their texts exactly when those at one place agree; and no file was there before if
the output directory did not exist and the names lead below it. Files with plain names lie at places
of their own, so then all of them hold their texts. -/
theorem outputs_stored_iff (h : (generate languages r outDir).Ends w w' chosen) :
    (∀ s ∈ chosen, ∀ language ∈ languages,
      ∃ o : Output, o.Of languages chosen ∧ o.source = s ∧ o.language = language) ∧
    (Output.NoneBefore languages chosen outDir w.tree w'.tree →
      ((∀ o : Output, o.Of languages chosen → o.Stored w'.tree outDir) ↔
        Output.Agree languages chosen outDir w'.tree)) ∧
    (w.tree.Rooted → w.tree.pathExists outDir = .ok false → ".." ∉ outDir.parts →
      (∀ o : Output, o.Of languages chosen → o.Below) →
        Output.NoneBefore languages chosen outDir w.tree w'.tree) ∧
    ((∀ o : Output, o.Of languages chosen → o.Plain) →
      (∀ a : Output, a.Of languages chosen → ∀ b : Output, b.Of languages chosen →
        w'.tree.locate (a.path outDir) = w'.tree.locate (b.path outDir) → a = b) ∧
      (w.tree.Rooted → w.tree.pathExists outDir = .ok false → ".." ∉ outDir.parts →
        ∀ o : Output, o.Of languages chosen → o.Stored w'.tree outDir)) := by
  obtain ⟨-, writers, hwriters, ⟨found, owners, hprepares⟩, made, hmade, parts, tree, hparts,
    hupdated, rfl⟩ := ends_generate.1 h
  have hroom := FileTree.makesRoom_makeDirectories w.tree outDir
  rw [hmade] at hroom
  have hiff (hnone : Output.NoneBefore languages chosen outDir w.tree tree) :=
    stored_iff_agree hwriters hparts hupdated fun o ho place hplace content hnode =>
      hnone o ho place hplace content (hroom.file_iff.1 hnode)
  refine ⟨fun s hs language hlanguage => exists_output hwriters hparts hs hlanguage, hiff,
    fun hrooted habsent hdots => noneBefore_of_below hrooted habsent hdots hmade hupdated,
    fun hplain => ?_⟩
  have hown : ∀ a : Output, a.Of languages chosen → ∀ b : Output, b.Of languages chosen →
      tree.locate (a.path outDir) = tree.locate (b.path outDir) → a = b := by
    intro a ha b hb hsame
    obtain ⟨place, hplace⟩ :=
      (forall_updates_iff hwriters hparts).1 (fun output houtput => hupdated.located houtput) b hb
    exact Output.eq_of_filename hwriters hprepares ha hb
      (Output.filename_eq_of_locate (hplain a ha) (hplain b hb) (hsame.trans hplace) hplace)
  refine ⟨hown, fun hrooted habsent hdots => ?_⟩
  have hnone := noneBefore_of_below hrooted habsent hdots hmade hupdated
    fun o ho => (hplain o ho).toBelow
  exact (hiff hnone).2 fun a ha b hb hsame => congrArg Output.text (hown a ha b hb hsame)

/-- Settings that name the module of the JSON description. -/
def namingSettings (moduleName : String) : List UInt8 :=
  Utf8.encodeChars (Json.obj [("format", .str "ubind-config"), ("version", .int 0),
    ("bindings", .obj [("json", .obj [("module_name", .str moduleName)])])]).canonicalChars

def twoRoots (first second : String) : FileTree :=
  (((FileTree.put {} ["a"] .directory).put ["a", "ubind.json"] (.file (namingSettings first))).put
    ["b"] .directory).put ["b", "ubind.json"] (.file (namingSettings second))

def twoSpaces : List Item := [.space ⟨"a", "one"⟩, .space ⟨"b", "two"⟩]

/-- A library file with two libraries, beside their source roots. -/
def twoLibraries (first second : String) : FileTree :=
  (twoRoots first second).put ["libx.so"] (.file (Artifact.image Artifact.elfMagic twoSpaces))

def twoRequest : Request where
  library := ⟨"", ["libx.so"]⟩
  roots := .ofList [("a", ⟨"", ["a"]⟩), ("b", ⟨"", ["b"]⟩)]

def namedSource (library space moduleName : String) : Source where
  library := library
  interface := { Interface.empty library with space := some space }
  config := ⟨.ofList [("json", {
    language := "json", moduleName := some moduleName, cdylibName := some "x" })]⟩

def twoSources (first second : String) : List Source :=
  [namedSource "a" "one" first, namedSource "b" "two" second]

theorem itemsOfFile_twoSpaces {base written : FileTree}
    (hstore : base.store twoRequest.library (Artifact.image Artifact.elfMagic twoSpaces) =
      (written, .ok ())) : Library.itemsOfFile written twoRequest.library = .ok twoSpaces :=
  Library.itemsOfFile_store (by decide) (by decide)
    (List.forall_mem_cons.2 ⟨by decide +kernel, List.forall_mem_singleton.2 (by decide +kernel)⟩)
    (List.forall_mem_cons.2 ⟨trivial, List.forall_mem_singleton.2 trivial⟩) hstore

theorem sources_twoSpaces {base written : FileTree} {ctx : Library.Context} {found : List Source}
    (hstore : base.store twoRequest.library (Artifact.image Artifact.elfMagic twoSpaces) =
      (written, .ok ()))
    (h : (Library.sourcesOfItems written ctx twoSpaces).outcome.toOption = some found) :
    (Library.sources written ctx twoRequest.library).outcome = .ok found := by
  have hextract : (Library.extract written twoRequest.library).outcome = .ok twoSpaces := by
    rw [Library.outcome_extract, itemsOfFile_twoSpaces hstore]
    rfl
  rw [Library.sources, Traced.outcome_bind, hextract, ok_bind, Traced.outcome_bind,
    toOption_eq_some.1 h]
  rfl

theorem sources_twoLibraries {first second : String}
    (h : (Library.sourcesOfItems (twoLibraries first second)
      ⟨some "x", .inRoot, twoRequest.roots, ["json"]⟩ twoSpaces).outcome.toOption =
        some (twoSources first second)) :
    (Library.sources (twoLibraries first second) ⟨some "x", .inRoot, twoRequest.roots, ["json"]⟩
      twoRequest.library).outcome = .ok (twoSources first second) := by
  have hstore : (twoRoots first second).store twoRequest.library
      (Artifact.image Artifact.elfMagic twoSpaces) = (twoLibraries first second, .ok ()) := rfl
  exact sources_twoSpaces hstore h

theorem outputFilename_namedSource {library space moduleName : String} (hname : moduleName ≠ "") :
    Writer.json.outputFilename ((namedSource library space moduleName).config.sectionFor "json")
      (namedSource library space moduleName).interface = .ok (moduleName ++ "." ++ "json") := by
  have hsection : ((namedSource library space moduleName).config.sectionFor
      "json").moduleName = some moduleName := rfl
  simp only [Writer.outputFilename, hsection, Option.getD_some, if_neg hname]
  rfl

/-- A source with a name for its module has a description. -/
theorem exists_makes_namedSource (library space : String) {moduleName : String}
    (hname : moduleName ≠ "") : ∃ text, Writer.json.Makes (namedSource library space moduleName)
      (moduleName ++ "." ++ "json", text) :=
  ⟨_, outputFilename_namedSource hname, Description.render_short rfl (List.forall_mem_nil _)⟩

/-- A run over the two libraries ends well if their files can be written one after the other. -/
theorem ends_twoLibraries {first second : String} (hfirst : first ≠ "") (hsecond : second ≠ "")
    (hfound : (Library.sourcesOfItems (twoLibraries first second)
      ⟨some "x", .inRoot, twoRequest.roots, ["json"]⟩ twoSpaces).outcome.toOption =
        some (twoSources first second))
    {owners : Owners}
    (hclaimed : (twoSources first second).foldlM
      (Owners.claimAll (Generator.ofWriters [.json] : Generator Unit)) Table.empty = .ok owners)
    (hupdated : ∀ text text' : List Char, ∃ tree,
      FileTree.Updated ((twoLibraries first second).put ["out"] .directory)
        [(Path.append ⟨"", ["out"]⟩ (first ++ "." ++ "json"), text),
          (Path.append ⟨"", ["out"]⟩ (second ++ "." ++ "json"), text')] tree) :
    ∃ w', (generate ["json"] twoRequest ⟨"", ["out"]⟩).Ends ⟨twoLibraries first second, ()⟩ w'
      (twoSources first second) := by
  obtain ⟨text, hmakes⟩ := exists_makes_namedSource "a" "one" hfirst
  obtain ⟨text', hmakes'⟩ := exists_makes_namedSource "b" "two" hsecond
  obtain ⟨tree, hupdated⟩ := hupdated text.toList text'.toList
  exact ⟨_, ends_generate.2 ⟨by decide, [.json], rfl, ⟨twoSources first second, owners, rfl,
    sources_twoLibraries hfound, rfl, hclaimed⟩, _, rfl, [[_], [_]], tree,
    .cons (.cons hmakes .nil) (.cons (.cons hmakes' .nil) .nil), hupdated, rfl⟩⟩

/-- The outputs of two sources have the names of their modules. -/
theorem filename_of_twoSources {first second : String} (hfirst : first ≠ "")
    (hsecond : second ≠ "") {o : Output} (h : o.Of ["json"] (twoSources first second)) :
    o.filename = first ++ "." ++ "json" ∨ o.filename = second ++ "." ++ "json" := by
  obtain ⟨hs, hlanguage, writer, hfor, hmakes⟩ := h
  rw [List.mem_singleton.1 hlanguage] at hfor
  obtain rfl : Writer.json = writer := Except.ok.inj hfor
  simp only [twoSources, List.mem_cons, List.not_mem_nil, or_false] at hs
  have hname := hmakes.filename
  rcases hs with hs | hs
  · rw [hs] at hname
    exact .inl (Except.ok.inj (hname.symm.trans (outputFilename_namedSource hfirst)))
  · rw [hs] at hname
    exact .inr (Except.ok.inj (hname.symm.trans (outputFilename_namedSource hsecond)))

theorem outputs_stored_plainNames :
    ∃ w' chosen, (generate ["json"] twoRequest ⟨"", ["out"]⟩).Ends
        ⟨twoLibraries "api" "other", ()⟩ w' chosen ∧ chosen.length = 2 ∧
      (∀ s ∈ chosen, ∀ language ∈ ["json"],
        ∃ o : Output, o.Of ["json"] chosen ∧ o.source = s ∧ o.language = language) ∧
      ∀ o : Output, o.Of ["json"] chosen → o.Stored w'.tree ⟨"", ["out"]⟩ := by
  have hfound : (Library.sourcesOfItems (twoLibraries "api" "other")
      ⟨some "x", .inRoot, twoRequest.roots, ["json"]⟩ twoSpaces).outcome.toOption =
        some (twoSources "api" "other") := by decide +kernel
  have hready : ((twoLibraries "api" "other").put ["out"] .directory).Ready
      (Path.append ⟨"", ["out"]⟩ "api.json") ["out", "api.json"] :=
    ⟨by decide +kernel, ["out"], by decide +kernel, by decide +kernel⟩
  have hready' : ((twoLibraries "api" "other").put ["out"] .directory).Ready
      (Path.append ⟨"", ["out"]⟩ "other.json") ["out", "other.json"] :=
    ⟨by decide +kernel, ["out"], by decide +kernel, by decide +kernel⟩
  obtain ⟨w', hrun⟩ := ends_twoLibraries (by decide) (by decide) hfound rfl
    (hready.exists_updated (by decide +kernel) hready' (by decide +kernel))
  have hplain : ∀ o : Output, o.Of ["json"] (twoSources "api" "other") → o.Plain := by
    intro o ho
    rcases filename_of_twoSources (by decide) (by decide) ho with hname | hname <;>
      refine ⟨⟨?_, ?_⟩, ?_⟩ <;> rw [hname] <;> decide +kernel
  have hrooted : (twoLibraries "api" "other").Rooted := by
    rw [FileTree.rooted_iff]
    decide +kernel
  have habsent : (twoLibraries "api" "other").pathExists ⟨"", ["out"]⟩ = .ok false := by
    decide +kernel
  have hall := outputs_stored_iff hrun
  exact ⟨w', _, hrun, rfl, hall.1, (hall.2.2.2 hplain).2 hrooted habsent (by decide)⟩

/-- Two names of one path: the run ends well, and the text of one of the libraries is lost. -/
theorem outputs_overwritten :
    ∃ w' chosen, (generate ["json"] twoRequest ⟨"", ["out"]⟩).Ends
        ⟨twoLibraries "api" "./api", ()⟩ w' chosen ∧
      (twoLibraries "api" "./api").pathExists ⟨"", ["out"]⟩ = .ok false ∧
      ∃ a b : Output, a.Of ["json"] chosen ∧ b.Of ["json"] chosen ∧
        a.source.library = "a" ∧ b.source.library = "b" ∧
        a.path ⟨"", ["out"]⟩ = b.path ⟨"", ["out"]⟩ ∧
        ¬(a.Stored w'.tree ⟨"", ["out"]⟩ ∧ b.Stored w'.tree ⟨"", ["out"]⟩) := by
  have hfound : (Library.sourcesOfItems (twoLibraries "api" "./api")
      ⟨some "x", .inRoot, twoRequest.roots, ["json"]⟩ twoSpaces).outcome.toOption =
        some (twoSources "api" "./api") := by decide +kernel
  have hready : ((twoLibraries "api" "./api").put ["out"] .directory).Ready
      (Path.append ⟨"", ["out"]⟩ "api.json") ["out", "api.json"] :=
    ⟨by decide +kernel, ["out"], by decide +kernel, by decide +kernel⟩
  have hnone : ((twoLibraries "api" "./api").put ["out"] .directory).node? ["out", "api.json"] =
      none := by decide +kernel
  have hsame : Path.append ⟨"", ["out"]⟩ "api.json" = Path.append ⟨"", ["out"]⟩ "./api.json" := by
    decide +kernel
  obtain ⟨w', hrun⟩ := ends_twoLibraries (by decide) (by decide) hfound rfl
    (hready.exists_updated hnone (hsame ▸ hready) hnone)
  obtain ⟨text, hmakes⟩ := exists_makes_namedSource "a" "one" (by decide : "api" ≠ "")
  obtain ⟨text', hmakes'⟩ := exists_makes_namedSource "b" "two" (by decide : "./api" ≠ "")
  have htexts : text ≠ text' := by
    rintro rfl
    have hlibraries := Description.library_of_render hmakes.text hmakes'.text
    exact absurd hlibraries (by decide)
  refine ⟨w', _, hrun, by decide +kernel,
    ⟨namedSource "a" "one" "api", "json", "api.json", text⟩,
    ⟨namedSource "b" "two" "./api", "json", "./api.json", text'⟩,
    ⟨by simp [twoSources], by simp, .json, rfl, hmakes⟩,
    ⟨by simp [twoSources], by simp, .json, rfl, hmakes'⟩, rfl, rfl, hsame, ?_⟩
  rintro ⟨hstored, hstored'⟩
  have hbytes := hstored.symm.trans ((congrArg w'.tree.read hsame).trans hstored')
  exact htexts (String.toList_inj.1 (Utf8.encodeChars_injective (Except.ok.inj hbytes)))

end Bindery
