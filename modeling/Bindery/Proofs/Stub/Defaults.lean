import Bindery.Proofs.Library.Dictionaries
import Bindery.Proofs.Stub.Constants
import Bindery.Proofs.Stub.Lines
/-!
# The defaults of strings

A string default of a legacy file comes back in the stub as the literal of the text that it denotes,
whatever this text is, and a default of the bare name `null` as `None`. But an interface keeps both
in one place and as a text. So the literal `"null"` comes back as `None`, and this is the only one
that does not survive.
-/
namespace Bindery.Stub

open Legacy (FieldDecl decodeLiteral parseFile)
open Library (Declares Describes Represents StringType)
open Outcome

/-- The fields of a dictionary in the order of their lines: those without a default come first. -/
def inLineOrder (decls : List FieldDecl) : List FieldDecl :=
  decls.filter (·.default.isNone) ++ decls.filter (·.default.isSome)

/-- The line of a field with a default, given how its type is written. -/
def fieldLine (decl : FieldDecl) (written value : String) : String :=
  "\t" ++ ident decl.name.text ++ ": " ++ written ++ " = " ++ value

def codePoints (s : String) : List Nat := s.toList.map Char.toNat

/-- What the line of a string says of its default. A literal comes back unless it denotes the text
`null`. -/
structure ShowsDefault (stub : String) (decl : FieldDecl) (line : String) : Prop where
  literal : ∀ ty written, StringType decl.type ty written → ∀ l,
    decl.default = some (.text l) → ∃ s value, decodeLiteral l = .ok s ∧
      line = fieldLine decl written value ∧ HasLine stub line ∧
      (value = Text.quoted s ↔ s ≠ "null") ∧
      (constant? value = some (.text (codePoints s)) ↔ s ≠ "null") ∧
      (s = "null" → value = "None")
  word : ∀ ty written, StringType decl.type ty written → ∀ w,
    decl.default = some (.word w) → w.text = "null" →
      line = fieldLine decl written "None" ∧ HasLine stub line ∧
      constant? "None" = some .none

/-- A stub has a class for each dictionary of a legacy file, with a line for each field. -/
def ShowsDefaults (c : Section) (text : List Char) (i : Interface) : Prop :=
  ∃ file stub, parseFile text = .ok file ∧ render c i = .ok stub ∧
    ∀ d ∈ file, ∀ decls, d.body = .dictionary decls → ∃ before hashable shown behind,
      stub = fileText (before ++ decorator hashable :: classLine (c.renamed d.name.text) none ::
        (shown ++ behind)) ∧
      List.Forall₂ (ShowsDefault stub) (inLineOrder decls) shown

variable {c : Section} {decl : FieldDecl} {f : Field} {ty : Ty} {written : String}

/-- How the default of a string is written. -/
def stringDefault (s : String) : String := if s = "null" then "None" else Text.quoted s

/-- The default of a string field is spelled as a string. -/
theorem spelling_ofDefault (h : Value.requiredTy ty = .primitive .string) (s : String) :
    (Value.ofDefault ty s).spelling = stringDefault s := by
  unfold Value.ofDefault stringDefault
  split
  · rfl
  · rw [h]
    rfl

/-- The line of a field holds its name, its annotation and its default. -/
theorem line_eq (h : Declares decl f) (htype : StringType decl.type ty written) {s : String}
    (hdefault : f.default = some s) :
    (attributeOf c f).line = fieldLine decl written (stringDefault s) := by
  have hty := h.ty ty written htype
  have hne : ∀ head tail : String, head ++ (": " ++ tail) ≠ "" := by
    intro head tail e
    have := congrArg String.length e
    simp at this
  simp only [Attribute.line, attributeOf, hdefault, Option.map_some, hty, htype.text,
    spelling_ofDefault htype.requiredTy, h.name, line, fieldLine, String.append_assoc]
  rw [if_neg (hne _ _)]
  rfl

theorem endsPlain_quoted (s : String) : EndsPlain (Text.quoted s) := by
  have hlast : Text.quoteFor s.toList ≠ '\n' := by
    rcases Text.isQuote_quoteFor s.toList with h | h <;> rw [h] <;> decide
  refine ⟨Text.quoteFor s.toList :: s.toList.flatMap (Text.escapeChar (Text.quoteFor s.toList)),
    _, ?_, hlast⟩
  rw [Text.quoted, String.toList_ofList, Text.quotedChars]

theorem endsPlain_stringDefault (s : String) : EndsPlain (stringDefault s) := by
  unfold stringDefault
  split
  · exact ⟨['N', 'o', 'n'], 'e', by decide, by decide⟩
  · exact endsPlain_quoted s

theorem endsPlain_line (h : Declares decl f) (htype : StringType decl.type ty written) {s : String}
    (hdefault : f.default = some s) : EndsPlain (attributeOf c f).line := by
  rw [line_eq h htype hdefault]
  exact (endsPlain_stringDefault s).append _

/-- Every default but one is quoted. -/
theorem stringDefault_eq_quoted_iff (s : String) :
    stringDefault s = Text.quoted s ↔ s ≠ "null" := by
  unfold stringDefault
  split
  · rename_i hnull
    exact iff_of_false (fun e => quoted_ne_none s e.symm) (fun hne => hne hnull)
  · rename_i hne
    exact iff_of_true rfl hne

/-- Every default but one is evaluated to the text that was written. -/
theorem constant?_stringDefault_iff (s : String) :
    constant? (stringDefault s) = some (.text (codePoints s)) ↔ s ≠ "null" := by
  unfold stringDefault
  split
  · rename_i hnull
    exact iff_of_false (by simp [constant?]) (fun hne => hne hnull)
  · rename_i hne
    exact iff_of_true (constant?_quoted s) hne

/-- What the line of a field says, if it is one of the lines of a stub that end well. -/
theorem showsDefault_of_declares {stub : String} (h : Declares decl f)
    (hline : EndsPlain (attributeOf c f).line → HasLine stub (attributeOf c f).line) :
    ShowsDefault stub decl (attributeOf c f).line where
  literal ty written htype l hdefault := by
    have hread := h.default
    rw [hdefault] at hread
    obtain ⟨s, hs, hfield⟩ := map_eq_ok.1 hread
    exact ⟨s, stringDefault s, hs, line_eq h htype hfield.symm,
      hline (endsPlain_line h htype hfield.symm), stringDefault_eq_quoted_iff s,
      constant?_stringDefault_iff s, fun hnull => if_pos hnull⟩
  word ty written htype w hdefault hw := by
    have hread := h.default
    rw [hdefault] at hread
    have hfield : f.default = some "null" := by
      rw [← hw]
      exact (Except.ok.inj hread).symm
    exact ⟨line_eq h htype hfield, hline (endsPlain_line h htype hfield), rfl⟩

theorem isSome_default (h : Declares decl f) : decl.default.isSome = f.default.isSome := by
  have hdefault := h.default
  cases hdecl : decl.default with
  | none =>
    rw [hdecl] at hdefault
    rw [← Except.ok.inj hdefault]
    rfl
  | some value =>
    rw [hdecl] at hdefault
    cases value with
    | text l =>
      obtain ⟨s, -, hs⟩ := map_eq_ok.1 hdefault
      rw [← hs]
      rfl
    | number spelling | word w =>
      rw [← Except.ok.inj hdefault]
      rfl

/-- The fields of a record come in the order of the lines of its dictionary. -/
theorem declares_inLineOrder {decls : List FieldDecl} {fields : List Field}
    (h : List.Forall₂ Declares decls fields) :
    List.Forall₂ Declares (inLineOrder decls)
      (fields.filter (·.default.isNone) ++ fields.filter (·.default.isSome)) := by
  have hsome : ∀ decl f, Declares decl f → (decl.default.isSome = true ↔ f.default.isSome = true) :=
    fun decl f hf => by rw [isSome_default hf]
  have hnone : ∀ decl f, Declares decl f → (decl.default.isNone = true ↔ f.default.isNone = true) :=
    fun decl f hf => by rw [← Option.not_isSome, ← Option.not_isSome, isSome_default hf]
  exact List.rel_append (List.rel_filter (fun decl f => hnone decl f) h)
    (List.rel_filter (fun decl f => hsome decl f) h)

/-- The lines of a stub hold the class of each record with a line for each field. -/
theorem exists_recordLines {i : Interface} {r : Record} (hr : r ∈ i.records.values)
    (hplain : r.docstring = none) (space : String) : ∃ before hashable behind,
      (statements c i space).flatMap Statement.lines =
        before ++ decorator hashable :: classLine (c.renamed r.name) none ::
          ((attributesOf c r.fields).map Attribute.line ++ behind) := by
  have hstatement : recordStatement c (isHashable i (Interface.recordTy r)) r ∈
      statements c i space := by
    have hclass : recordStatement c (isHashable i (Interface.recordTy r)) r ∈ recordClasses c i :=
      List.mem_map_of_mem hr
    rw [statements_eq]
    simp [declarations, hclass]
  obtain ⟨front, back, hsplit⟩ := List.append_of_mem hstatement
  have hbody : ∃ behind, classBody none ((attributesOf c r.fields).map Attribute.line) =
      (attributesOf c r.fields).map Attribute.line ++ behind := by
    unfold classBody
    split
    · rename_i h
      exact ⟨[passLine], by rw [h.1]; rfl⟩
    · exact ⟨[], by rw [List.append_nil]; rfl⟩
  obtain ⟨behind, hbehind⟩ := hbody
  refine ⟨front.flatMap Statement.lines ++ [blank, blank],
    isHashable i (Interface.recordTy r), behind ++ back.flatMap Statement.lines, ?_⟩
  rw [hsplit, List.flatMap_append, List.flatMap_cons, recordStatement, Statement.lines, hplain,
    hbehind]
  simp

/-- An interface with a record for each dictionary shows the defaults of the dictionaries. -/
theorem showsDefaults_of_hasRecords {text : List Char} {file : Legacy.File} {i : Interface}
    {space : String} (hfile : parseFile text = .ok file)
    (hrecords : Library.HasRecords file (· ∈ i.records.values)) (hspace : i.space = some space) :
    ShowsDefaults c text i := by
  refine ⟨file, _, hfile, render_eq c i hspace, fun d hd decls hbody => ?_⟩
  obtain ⟨r, hr, hrepresents⟩ := hrecords d hd decls hbody
  obtain ⟨before, hashable, behind, hlines⟩ :=
    exists_recordLines (c := c) hr hrepresents.plain space
  rw [hrepresents.name] at hlines
  rw [hlines]
  refine ⟨before, hashable, _, behind, rfl, ?_⟩
  have hshown : ∀ line ∈ (attributesOf c r.fields).map Attribute.line, EndsPlain line →
      HasLine (fileText (before ++ decorator hashable :: classLine (c.renamed d.name.text) none ::
        ((attributesOf c r.fields).map Attribute.line ++ behind))) line := by
    intro line hmem hend
    obtain ⟨front, back, hsplit⟩ := List.append_of_mem hmem
    have hfront : before ++ decorator hashable :: classLine (c.renamed d.name.text) none ::
        front ≠ [] := by simp
    rw [hsplit]
    simpa using hasLine_fileText hfront hend (back ++ behind)
  generalize fileText _ = stub at hshown ⊢
  have hfields := declares_inLineOrder hrepresents.fields
  rw [attributesOf, List.map_map] at hshown ⊢
  have hpairs := related_and_right.2 ⟨hfields, fun f hf => hf⟩
  exact List.forall₂_map_right_iff.2 (hpairs.imp fun decl f h =>
    showsDefault_of_declares h.1 (hshown _ (List.mem_map_of_mem h.2)))

/-- A string literal in a legacy file is the default that the stub gives to its field, for every
text but `null`, and a default of the bare name `null` is `None`. This is so for whatever interface
the file was added to, and so for the source of a library that declares the file. -/
theorem stringDefaults_survive_iff (c : Section) :
    (∀ library text g before added later, Describes library text g →
      ((Interface.empty library).after before).addGroup g = (added, .ok ()) →
        ShowsDefaults c text (added.after later)) ∧
    ∀ t ctx groups free entry s file,
      (Library.source t ctx groups free entry).outcome = .ok s →
      Library.legacyFile? t entry.1 (ctx.roots.get? entry.1) entry.2 = .ok (some file) →
        ∃ text, t.readText file = .ok text ∧ ShowsDefaults c text s.interface := by
  have hadds : ∀ {library text g} {i added later : Interface}, Describes library text g →
      i.addGroup g = (added, .ok ()) → added.Grows later → ShowsDefaults c text later := by
    intro library text g i added later hdescribes hadd hgrows
    obtain ⟨file, hfile, hrecords⟩ := Library.hasRecords_of_addGroup hdescribes hadd hgrows
    exact showsDefaults_of_hasRecords hfile hrecords
      (hgrows.space _ (Interface.space_of_addGroup hadd))
  constructor
  · intro library text g before added later hdescribes hadd
    exact hadds hdescribes hadd (added.grows_after later)
  · intro t ctx groups free entry s file hsource hfile
    obtain ⟨text, g, added, htext, hdescribes, hadd, hlast⟩ :=
      Library.added_of_source hsource hfile
    have hgrows := added.grows_addGroup entry.2
    rw [hlast] at hgrows
    exact ⟨text, htext, hadds hdescribes hadd hgrows⟩

/-- Literals that spell keywords, and the bare name `null`. -/
def keywordsText : List Char :=
  "namespace one \x7b\x7d;\ndictionary R \x7b string x = \"null\"; string? y = null;\n".toList ++
    "string? z = \"None\"; string t = \"\"; \x7d;".toList

def keywordsGroup : Group where
  space := ⟨"a", "one"⟩
  items := [.record ⟨"a", "R", [⟨"x", .primitive .string, some "null", none⟩,
    ⟨"y", .optional (.primitive .string), some "null", none⟩,
    ⟨"z", .optional (.primitive .string), some "None", none⟩,
    ⟨"t", .primitive .string, some "", none⟩], none⟩]
  nodup := by decide

theorem read_keywordsText : Legacy.read "a" keywordsText = .ok keywordsGroup := by decide +kernel

def keywordsLines : List String := [
  "# Generated by ubind for library 'a'. Do not edit.", "from __future__ import annotations", "",
  "import datetime", "import enum", "import typing", "from dataclasses import dataclass", "",
  "NAMESPACE = 'one'", "CDYLIB_NAME = None", "", "", "@dataclass(frozen=True)", "class R:",
  "\tx: str = None", "\ty: typing.Optional[str] = None", "\tz: typing.Optional[str] = 'None'",
  "\tt: str = ''"]

/-- The literal and the bare name are told apart no longer, so the first field does not get the text
that its literal denotes. -/
theorem nullLiteral_lost : Legacy.read "a" keywordsText = .ok keywordsGroup ∧
    decodeLiteral ⟨"null".toList, ⟨2, 27⟩⟩ = .ok "null" ∧
    (∃ i, (Interface.empty "a").addGroups [keywordsGroup] = .ok i ∧
      render (.empty "python") i = .ok (fileText keywordsLines)) ∧
    "\tx: str = " ++ Text.quoted "null" ∉ keywordsLines ∧
    constant? "None" ≠ some (.text (codePoints "null")) := by
  have hlines : ((Interface.empty "a").addGroups [keywordsGroup]).map (fun i =>
      (i.space, (statements (.empty "python") i "one").flatMap Statement.lines)) =
        .ok (some "one", keywordsLines) := by decide +kernel
  obtain ⟨i, hi, hlines⟩ := map_eq_ok.1 hlines
  obtain ⟨hspace, hlines⟩ := Prod.mk.inj hlines
  exact ⟨read_keywordsText, by decide +kernel, ⟨i, hi, by rw [render_eq _ i hspace, hlines]⟩,
    by decide +kernel, by decide +kernel⟩

def keywordsTree : FileTree :=
  (((FileTree.put {} ["a"] .directory).put ["a", "src"] .directory).put ["a", "src", "one.udl"]
    (.file (Utf8.encodeChars keywordsText)))

def keywordsContext : Library.Context where
  roots := .ofList [("a", ⟨"", ["a"]⟩)]
  languages := ["python"]

def markedGroup : Group where
  space := ⟨"a", "one"⟩
  items := [.legacy ⟨"a", "one", "one"⟩]
  nodup := by decide

theorem stringDefaults_survive_iff_keywords :
    (∃ added, Describes "a" keywordsText keywordsGroup ∧
      ((Interface.empty "a").after []).addGroup keywordsGroup = (added, .ok ()) ∧
      ShowsDefaults (.empty "python") keywordsText (added.after [])) ∧
    ∃ s file text, (Library.source keywordsTree keywordsContext (.ofList [("a", markedGroup)]) []
        ("a", markedGroup)).outcome = .ok s ∧
      Library.legacyFile? keywordsTree "a" (keywordsContext.roots.get? "a") markedGroup =
        .ok (some file) ∧
      keywordsTree.readText file = .ok text ∧ ShowsDefaults (.empty "python") text s.interface := by
  have hdescribes : Describes "a" keywordsText keywordsGroup := .read read_keywordsText
  have hadd : ((Interface.empty "a").after []).addGroup keywordsGroup =
      (((Interface.empty "a").after []).addGroup keywordsGroup |>.1, .ok ()) := by decide +kernel
  have hsource : (Library.source keywordsTree keywordsContext (.ofList [("a", markedGroup)]) []
      ("a", markedGroup)).outcome.toOption.isSome = true := by decide +kernel
  obtain ⟨s, hs⟩ := Option.isSome_iff_exists.1 hsource
  have hsource := toOption_eq_some.1 hs
  have hfile : Library.legacyFile? keywordsTree "a" (keywordsContext.roots.get? "a") markedGroup =
      .ok (some ⟨"", ["a", "src", "one.udl"]⟩) := by rfl
  obtain ⟨hadded, hfound⟩ := stringDefaults_survive_iff (.empty "python")
  obtain ⟨text, htext, hshows⟩ := hfound _ _ _ _ _ _ _ hsource hfile
  exact ⟨⟨_, hdescribes, hadd, hadded _ _ _ [] _ [] hdescribes hadd⟩, s, _, text, hsource, hfile,
    htext, hshows⟩

end Bindery.Stub
