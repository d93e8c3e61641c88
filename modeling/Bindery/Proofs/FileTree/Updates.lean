import Bindery.Proofs.FileTree
import Bindery.Proofs.Text.Utf8
/-!
# Runs of updates

What is in a tree after files were brought up to date one after the other. Directories are made
where nothing was; else nothing changes but the files that are written, so a file keeps its text
unless a later update at its place has another one.
-/
namespace Bindery.FileTree

open Outcome

variable {t t' t'' : FileTree} {p : Path} {place : Place} {text : List Char}

/-- Directories were made where nothing was. -/
structure MakesRoom (t t' : FileTree) : Prop where
  here : t'.here = t.here
  node : ∀ place, t'.node? place = t.node? place ∨
    t.node? place = none ∧ t'.node? place = some .directory

theorem MakesRoom.refl (t : FileTree) : MakesRoom t t := ⟨rfl, fun _ => .inl rfl⟩

/-- A directory stays one while room is made. -/
theorem MakesRoom.directory (h : MakesRoom t t') (hplace : t.node? place = some .directory) :
    t'.node? place = some .directory := by
  obtain hsame | ⟨hnone, -⟩ := h.node place
  · exact hsame.trans hplace
  · rw [hnone] at hplace
    cases hplace

theorem MakesRoom.trans (h : MakesRoom t t') (h' : MakesRoom t' t'') : MakesRoom t t'' where
  here := h'.here.trans h.here
  node place := by
    obtain hsame | ⟨hnone, hmade⟩ := h.node place
    · rw [← hsame]
      exact h'.node place
    · exact .inr ⟨hnone, h'.directory hmade⟩

theorem file_iff_of_made {node node' : Option Node}
    (h : node' = node ∨ node = none ∧ node' = some .directory) {content : List UInt8} :
    node' = some (.file content) ↔ node = some (.file content) := by
  obtain rfl | ⟨rfl, rfl⟩ := h
  · exact Iff.rfl
  · simp

theorem MakesRoom.file_iff (h : MakesRoom t t') {content : List UInt8} :
    t'.node? place = some (.file content) ↔ t.node? place = some (.file content) :=
  file_iff_of_made (h.node place)

theorem makesRoom_of_ensureDirectory {made : FileTree} (h : t.ensureDirectory p = .ok made) :
    MakesRoom t made := by
  unfold ensureDirectory makeDirectory at h
  split at h
  · rename_i found hmade
    obtain rfl := Except.ok.inj h
    split at hmade
    · cases hmade
    · split at hmade
      · cases hmade
      · rename_i hnone
        obtain rfl := Except.ok.inj hmade
        refine ⟨rfl, fun other => ?_⟩
        rw [node?_put]
        split
        · rename_i hother
          exact .inr ⟨hother.1 ▸ hnone, rfl⟩
        · exact .inl rfl
  · split at h
    · obtain rfl := Except.ok.inj h
      exact .refl _
    · cases h

/-- Whether it ends well or not. -/
theorem makesRoom_makeDirectoriesFrom (fuel : Nat) (t : FileTree) (p : Path) :
    MakesRoom t (makeDirectoriesFrom fuel t p).1 := by
  induction fuel generalizing t p with
  | zero =>
    unfold makeDirectoriesFrom
    split
    · rename_i hmade
      exact makesRoom_of_ensureDirectory hmade
    · simp [MakesRoom.refl]
  | succ fuel ih =>
    unfold makeDirectoriesFrom
    split
    · rename_i hmade
      exact makesRoom_of_ensureDirectory hmade
    · split
      · rename_i hfuel
        obtain rfl := Nat.succ.inj hfuel
        have habove := ih t p.parent
        split
        · rename_i he
          rwa [he] at habove
        · rename_i he
          rw [he] at habove
          split
          · rename_i hmade
            exact habove.trans (makesRoom_of_ensureDirectory hmade)
          · exact habove
      · exact .refl t

/-- To make directories touches no file, even where it fails. -/
theorem makesRoom_makeDirectories (t : FileTree) (p : Path) :
    MakesRoom t (t.makeDirectories p).1 :=
  makesRoom_makeDirectoriesFrom _ t p

/-- A path to a directory that was ensured leads somewhere. -/
theorem locate_of_ensureDirectory {made : FileTree} (h : t.ensureDirectory p = .ok made) :
    ∃ place, made.locate p = .ok place := by
  unfold ensureDirectory makeDirectory at h
  split at h
  · rename_i found hmade
    obtain rfl := Except.ok.inj h
    split at hmade
    · cases hmade
    · split at hmade
      · cases hmade
      · rename_i place hplace _ hnone
        obtain rfl := Except.ok.inj hmade
        exact ⟨place, locate_put hplace (by simp [hnone])⟩
  · split at h
    · rename_i hdirectory
      obtain rfl := Except.ok.inj h
      rw [Bool.and_eq_true, isDirectory, look] at hdirectory
      cases hplace : t.locate p with
      | ok place => exact ⟨place, rfl⟩
      | error cause => cases cause <;> simp [hplace] at hdirectory
    · cases h

/-- A path leads somewhere once its directories are made. -/
theorem locate_of_makeDirectories {made : FileTree} (h : t.makeDirectories p = (made, .ok ())) :
    ∃ place, made.locate p = .ok place := by
  unfold makeDirectories at h
  cases hfuel : p.parts.length with
  | zero =>
    rw [hfuel, makeDirectoriesFrom] at h
    split at h
    · rename_i hmade
      obtain ⟨rfl, -⟩ := Prod.mk.inj h
      exact locate_of_ensureDirectory hmade
    · simp at h
  | succ fuel =>
    rw [hfuel, makeDirectoriesFrom] at h
    split at h
    · rename_i hmade
      obtain ⟨rfl, -⟩ := Prod.mk.inj h
      exact locate_of_ensureDirectory hmade
    · split at h
      · split at h
        · cases (Prod.mk.inj h).2
        · split at h
          · rename_i hmade
            obtain ⟨rfl, -⟩ := Prod.mk.inj h
            exact locate_of_ensureDirectory hmade
          · cases (Prod.mk.inj h).2
      · cases (Prod.mk.inj h).2

/-- What an update that ends well does: the path leads to a place with the text, or with a file
that was there before, and elsewhere directories are made at most. -/
structure Updates (t : FileTree) (p : Path) (text : List Char) (place : Place) (t' : FileTree) :
    Prop where
  here : t'.here = t.here
  located : t'.locate p = .ok place
  self : t'.node? place = some (.file (Utf8.encodeChars text)) ∨
    t' = t ∧ ∃ content, t.node? place = some (.file content)
  others : ∀ other, other ≠ place → t'.node? other = t.node? other ∨
    t.node? other = none ∧ t'.node? other = some .directory
  directory : ∀ other, t.node? other = some .directory → t'.node? other = some .directory

/-- An update changes the one file only. -/
theorem Updates.file_iff (h : Updates t p text place t') {other : Place} (hother : other ≠ place)
    {content : List UInt8} :
    t'.node? other = some (.file content) ↔ t.node? other = some (.file content) :=
  file_iff_of_made (h.others other hother)

theorem file_of_read {content : List UInt8} (h : t.read p = .ok content) :
    ∃ place, t.locate p = .ok place ∧ t.node? place = some (.file content) := by
  unfold read at h
  split at h
  · cases h
  · rename_i place hplace
    split at h
    · cases h
    · cases h
    · rename_i hnode
      obtain rfl := Except.ok.inj h
      exact ⟨place, hplace, hnode⟩

theorem read_of_file {content : List UInt8} (hplace : t.locate p = .ok place)
    (hnode : t.node? place = some (.file content)) : t.read p = .ok content := by
  simp only [read, hplace, hnode]

theorem file_of_readText? (h : t.readText? p = .ok (some text)) :
    ∃ place content, t.locate p = .ok place ∧ t.node? place = some (.file content) := by
  unfold readText? at h
  split at h
  · cases h
  · cases h
  · obtain ⟨known, hknown, -⟩ := map_eq_ok.1 h
    unfold readText at hknown
    split at hknown
    · cases hknown
    · rename_i hread
      obtain ⟨place, hplace, hnode⟩ := file_of_read hread
      exact ⟨place, _, hplace, hnode⟩

/-- What is stored is an update of the file. -/
theorem updates_of_store (h : t.store p (Utf8.encodeChars text) = (t', .ok ())) :
    ∃ place, Updates t p text place t' := by
  obtain ⟨made, hmade, hwrite⟩ := store_eq_ok.1 h
  obtain ⟨place, hplace, hnode, rfl⟩ := write_eq_ok.1 hwrite
  have hroom := makesRoom_makeDirectories t p.parent
  rw [hmade] at hroom
  have hroot : place ≠ [] := by
    rintro rfl
    exact hnode rfl
  refine ⟨place, hroom.here, locate_put hplace hnode, ?_, fun other hother => ?_,
    fun other hother => ?_⟩
  · simp [node?_put, hroot]
  · rw [node?_put, if_neg fun hp => hother hp.1]
    exact hroom.node other
  · have hkept := hroom.directory hother
    have hne : other ≠ place := fun e => hnode (e ▸ hkept)
    rw [node?_put, if_neg fun hp => hne hp.1, hkept]

/-- After an update without a fault the file holds the text, whether it was written or not. -/
theorem updates_of_update {written : Bool} (h : t.update p text = (t', .ok written)) :
    ∃ place, Updates t p text place t' := by
  unfold update at h
  split at h
  · cases (Prod.mk.inj h).2
  · split at h
    · rename_i hknown hsame
      subst hsame
      obtain ⟨rfl, -⟩ := Prod.mk.inj h
      obtain ⟨place, content, hplace, hnode⟩ := file_of_readText? hknown
      exact ⟨place, rfl, hplace, .inr ⟨rfl, content, hnode⟩, fun _ _ => .inl rfl, fun _ => id⟩
    · split at h
      · rename_i hstore
        obtain ⟨rfl, -⟩ := Prod.mk.inj h
        exact updates_of_store hstore
      · cases (Prod.mk.inj h).2

/-- The path leads to a place, and the one above it to a directory. -/
structure Ready (t : FileTree) (p : Path) (place : Place) : Prop where
  located : t.locate p = .ok place
  parent : ∃ above, t.locate p.parent = .ok above ∧ t.node? above = some .directory

theorem Ready.put (h : Ready t p place) {other : Place} (node : Node)
    (hother : t.node? other ≠ some .directory) : Ready (t.put other node) p place := by
  obtain ⟨above, habove, hdirectory⟩ := h.parent
  refine ⟨locate_put h.located hother, above, locate_put habove hother, ?_⟩
  have hne : above ≠ other := fun e => hother (e ▸ hdirectory)
  rw [node?_put, if_neg fun hp => hne hp.1, hdirectory]

theorem makeDirectories_of_ensured {made : FileTree} (h : t.ensureDirectory p = .ok made) :
    t.makeDirectories p = (made, .ok ()) := by
  unfold makeDirectories
  cases p.parts.length <;> rw [makeDirectoriesFrom, h]

theorem ensureDirectory_of_directory (hplace : t.locate p = .ok place)
    (hnode : t.node? place = some .directory) : t.ensureDirectory p = .ok t := by
  simp [ensureDirectory, makeDirectory, isDirectory, look, hplace, hnode, FileFault.fromSystem]

theorem makeDirectories_of_directory (hplace : t.locate p = .ok place)
    (hnode : t.node? place = some .directory) : t.makeDirectories p = (t, .ok ()) :=
  makeDirectories_of_ensured (ensureDirectory_of_directory hplace hnode)

/-- Where a path is ready its file is stored without ado. -/
theorem Ready.store_eq (h : Ready t p place) (hnode : t.node? place ≠ some .directory)
    (content : List UInt8) : t.store p content = (t.put place (.file content), .ok ()) := by
  obtain ⟨above, habove, hdirectory⟩ := h.parent
  exact store_eq_ok.2 ⟨t, makeDirectories_of_directory habove hdirectory,
    write_eq_ok.2 ⟨place, h.located, hnode, rfl⟩⟩

theorem Ready.update_of_absent (h : Ready t p place) (hnone : t.node? place = none)
    (text : List Char) :
    t.update p text = (t.put place (.file (Utf8.encodeChars text)), .ok true) := by
  have hknown : t.readText? p = .ok none := by
    simp [readText?, pathExists, look, h.located, hnone]
  have hstore := h.store_eq (by simp [hnone]) (Utf8.encodeChars text)
  simp [update, hknown, hstore]

theorem Ready.exists_update_of_text (h : Ready t p place) {known : List Char}
    (hnode : t.node? place = some (.file (Utf8.encodeChars known))) (text : List Char) :
    ∃ t' written, t.update p text = (t', .ok written) := by
  have hknown : t.readText? p = .ok (some (Text.unifyLineEnds known)) := by
    simp [readText?, pathExists, look, h.located, hnode, readText, read_of_file h.located hnode,
      Utf8.decodeChars_encodeChars]
  have hstore := h.store_eq (by simp [hnode]) (Utf8.encodeChars text)
  by_cases hsame : Text.unifyLineEnds known = text
  · exact ⟨t, false, by simp [update, hknown, hsame]⟩
  · exact ⟨t.put place (.file (Utf8.encodeChars text)), true,
      by simp [update, hknown, hsame, hstore]⟩

/-- Files that are brought up to date one after the other, all of which ends well. -/
inductive Updated : FileTree → List (Path × List Char) → FileTree → Prop where
  | nil (t : FileTree) : Updated t [] t
  | cons {t t₁ t' : FileTree} {p : Path} {text : List Char} {written : Bool}
      {rest : List (Path × List Char)} (h : t.update p text = (t₁, .ok written))
      (hrest : Updated t₁ rest t') : Updated t ((p, text) :: rest) t'

variable {outputs : List (Path × List Char)}

/-- Two files that are not there yet can be written one after the other, also if they are one. -/
theorem Ready.exists_updated {p' : Path} {place' : Place} (h : Ready t p place)
    (hnone : t.node? place = none) (h' : Ready t p' place') (hnone' : t.node? place' = none)
    (text text' : List Char) : ∃ t', Updated t [(p, text), (p', text')] t' := by
  have hfirst := h.update_of_absent hnone text
  have hready := h'.put (.file (Utf8.encodeChars text))
    (fun hdirectory => nomatch hnone.symm.trans hdirectory : t.node? place ≠ some .directory)
  have hroot : place ≠ [] := by
    rintro rfl
    cases hnone
  by_cases hsame : place' = place
  · obtain ⟨t', written, hsecond⟩ := hready.exists_update_of_text
      (by rw [node?_put, if_pos ⟨hsame, hsame ▸ hroot⟩]) text'
    exact ⟨t', .cons hfirst (.cons hsecond (.nil t'))⟩
  · have hsecond := hready.update_of_absent
      (by rw [node?_put, if_neg fun hp => hsame hp.1, hnone']) text'
    exact ⟨_, .cons hfirst (.cons hsecond (.nil _))⟩

/-- Updates leave every directory where it is. -/
theorem Updated.directory (h : Updated t outputs t') :
    t'.here = t.here ∧
      ∀ other, t.node? other = some .directory → t'.node? other = some .directory := by
  induction h with
  | nil t => exact ⟨rfl, fun _ => id⟩
  | cons h _ ih =>
    obtain ⟨place, h⟩ := updates_of_update h
    exact ⟨ih.1.trans h.here, fun other hother => ih.2 other (h.directory other hother)⟩

/-- Updates are made one after the other. -/
theorem updated_append_iff {more : List (Path × List Char)} :
    Updated t (outputs ++ more) t'' ↔ ∃ t', Updated t outputs t' ∧ Updated t' more t'' := by
  constructor
  · intro h
    induction outputs generalizing t with
    | nil => exact ⟨t, .nil t, h⟩
    | cons output outputs ih =>
      cases h with
      | cons hfirst hrest =>
        obtain ⟨t', houtputs, hmore⟩ := ih hrest
        exact ⟨t', .cons hfirst houtputs, hmore⟩
  · rintro ⟨t', h, hmore⟩
    induction h with
    | nil t => exact hmore
    | cons hfirst _ ih => exact .cons hfirst (ih hmore)

/-- In the end every path leads somewhere. -/
theorem Updated.located (h : Updated t outputs t') {output : Path × List Char}
    (houtput : output ∈ outputs) : ∃ place, t'.locate output.1 = .ok place := by
  induction h with
  | nil t => cases houtput
  | cons h hrest ih =>
    rcases List.mem_cons.1 houtput with rfl | hmem
    · obtain ⟨place, h⟩ := updates_of_update h
      have hkept := hrest.directory
      exact ⟨place, locate_of_directories h.located hkept.1 hkept.2⟩
    · exact ih hmem

/-- A place at which all updates have one text has it in the end, if it is there already or an
update is still to come and no file is in its way. -/
theorem Updated.node?_eq (h : Updated t outputs t')
    (hagree : ∀ output ∈ outputs, t'.locate output.1 = .ok place → output.2 = text)
    (hstart : t.node? place = some (.file (Utf8.encodeChars text)) ∨
      (∃ output ∈ outputs, t'.locate output.1 = .ok place) ∧
        ∀ content, t.node? place ≠ some (.file content)) :
    t'.node? place = some (.file (Utf8.encodeChars text)) := by
  induction h with
  | nil t =>
    obtain hthere | ⟨⟨output, houtput, -⟩, -⟩ := hstart
    · exact hthere
    · cases houtput
  | @cons t t₁ t' p first written rest h hrest ih =>
    obtain ⟨found, h⟩ := updates_of_update h
    have hkept := hrest.directory
    have hfound := locate_of_directories h.located hkept.1 hkept.2
    refine ih (fun output houtput => hagree output (List.mem_cons_of_mem _ houtput)) ?_
    by_cases hplace : place = found
    · subst hplace
      obtain rfl := hagree _ List.mem_cons_self hfound
      left
      obtain hwritten | ⟨rfl, content, hnode⟩ := h.self
      · exact hwritten
      · obtain hthere | ⟨-, hnone⟩ := hstart
        · exact hthere
        · exact absurd hnode (hnone content)
    · obtain hthere | ⟨⟨output, houtput, hlocated⟩, hnone⟩ := hstart
      · exact .inl ((h.file_iff hplace).2 hthere)
      · refine .inr ⟨⟨output, ?_, hlocated⟩, fun content hcontent =>
          hnone content ((h.file_iff hplace).1 hcontent)⟩
        rcases List.mem_cons.1 houtput with rfl | hlater
        · exact absurd (Except.ok.inj (hlocated.symm.trans hfound)) hplace
        · exact hlater

/-- Where no file was at the places of the updates, each of them has its text in the end exactly
when those with one place have one text. -/
theorem Updated.reads_iff (h : Updated t outputs t')
    (hfresh : ∀ output ∈ outputs, ∀ place, t'.locate output.1 = .ok place →
      ∀ content, t.node? place ≠ some (.file content)) :
    (∀ output ∈ outputs, t'.read output.1 = .ok (Utf8.encodeChars output.2)) ↔
      ∀ a ∈ outputs, ∀ b ∈ outputs, t'.locate a.1 = t'.locate b.1 → a.2 = b.2 := by
  constructor
  · intro hreads a ha b hb hsame
    have hread : t'.read a.1 = .ok (Utf8.encodeChars b.2) := by
      obtain ⟨place, hplace, hnode⟩ := file_of_read (hreads b hb)
      exact read_of_file (hsame.trans hplace) hnode
    exact Utf8.encodeChars_injective (Except.ok.inj ((hreads a ha).symm.trans hread))
  · intro hagree output houtput
    obtain ⟨place, hplace⟩ := h.located houtput
    refine read_of_file hplace (h.node?_eq (fun other hother hlocated => ?_) (.inr ⟨?_, ?_⟩))
    · exact hagree other hother output houtput (hlocated.trans hplace.symm)
    · exact ⟨output, houtput, hplace⟩
    · exact hfresh output houtput place hplace

end Bindery.FileTree
