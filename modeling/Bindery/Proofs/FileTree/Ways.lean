import Bindery.Proofs.FileTree.Updates
/-!
# The way to a file

At which places the parts of a path are looked up is told by the path alone. The path leads to its
end exactly when all of them are directories. A file can be stored exactly when none of them is a
file, and its own place is neither a directory nor one of them.
-/
namespace Bindery.FileTree

open Outcome

variable {t t' made : FileTree} {p : Path} {place : Place}

/-- Where a part leads to from a directory. -/
def next (place : Place) (part : String) : Place :=
  if part = ".." then place.dropLast else place ++ [part]

/-- The places from which the parts lead on, one after the other. -/
def way (start : Place) : List String → List Place
  | [] => []
  | part :: parts => start :: way (next start part) parts

def start (t : FileTree) (p : Path) : Place := if p.root = "" then t.here else []

/-- The places that must be directories for the path to lead anywhere. -/
def wayTo (t : FileTree) (p : Path) : List Place := way (t.start p) p.parts

/-- The place that the path leads to if it leads anywhere. -/
def endOf (t : FileTree) (p : Path) : Place := p.parts.foldl next (t.start p)

theorem way_concat (place : Place) (parts : List String) (part : String) :
    way place (parts ++ [part]) = way place parts ++ [parts.foldl next place] := by
  induction parts generalizing place with
  | nil => rfl
  | cons first parts ih => exact congrArg (place :: ·) (ih (next place first))

theorem wayTo_concat (t : FileTree) (root : String) (parts : List String) (part : String) :
    t.wayTo ⟨root, parts ++ [part]⟩ = t.wayTo ⟨root, parts⟩ ++ [t.endOf ⟨root, parts⟩] :=
  way_concat _ parts part

theorem start_congr (h : t'.here = t.here) (p : Path) : t'.start p = t.start p := by
  rw [start, start, h]

theorem wayTo_congr (h : t'.here = t.here) (p : Path) : t'.wayTo p = t.wayTo p := by
  rw [wayTo, wayTo, start_congr h]

theorem endOf_congr (h : t'.here = t.here) (p : Path) : t'.endOf p = t.endOf p := by
  rw [endOf, endOf, start_congr h]

theorem step_eq_ok_iff {part : String} {after : Place} :
    t.step place part = .ok after ↔ t.node? place = some .directory ∧
      part.utf8ByteSize ≤ maxNameBytes ∧ after = next place part := by
  have hdots : "..".utf8ByteSize ≤ maxNameBytes := by decide
  unfold step
  split
  · simp [*]
  · simp [*]
  · rename_i hdirectory
    by_cases hpart : part = ".."
    · simp [hpart, hdirectory, hdots, next, eq_comm]
    · by_cases hsize : maxNameBytes < part.utf8ByteSize
      · simp [hpart, hsize, Nat.not_le.2 hsize]
      · simp [hpart, hdirectory, hsize, Nat.not_lt.1 hsize, next, @eq_comm _ after]

/-- Steps lead to where they point if their names are short enough and every place that is passed is
a directory. -/
theorem steps_eq_ok_iff {parts : List String} {first : Place} :
    parts.foldlM t.step first = .ok place ↔
      (∀ part ∈ parts, part.utf8ByteSize ≤ maxNameBytes) ∧
      (∀ passed ∈ way first parts, t.node? passed = some .directory) ∧
      place = parts.foldl next first := by
  induction parts generalizing first with
  | nil => simp [way, pure, Except.pure, eq_comm]
  | cons part parts ih =>
    simp only [List.foldlM_cons, bind_eq_ok, step_eq_ok_iff, ih, way, List.forall_mem_cons,
      List.foldl_cons]
    constructor
    · rintro ⟨_, ⟨hfirst, hsize, rfl⟩, hsizes, hrest, hend⟩
      exact ⟨⟨hsize, hsizes⟩, ⟨hfirst, hrest⟩, hend⟩
    · rintro ⟨⟨hsize, hsizes⟩, ⟨hfirst, hrest⟩, hend⟩
      exact ⟨_, ⟨hfirst, hsize, rfl⟩, hsizes, hrest, hend⟩

/-- A path that is not refused for how it is spelled. -/
structure Nameable (p : Path) : Prop where
  noNul : hasNul p = false
  path : p.render.utf8ByteSize ≤ maxPathBytes
  names : ∀ part ∈ p.parts, part.utf8ByteSize ≤ maxNameBytes

/-- A path leads somewhere exactly if it can be named and passes through directories only. -/
theorem locate_eq_ok_iff : t.locate p = .ok place ↔ Nameable p ∧
    (∀ passed ∈ t.wayTo p, t.node? passed = some .directory) ∧ place = t.endOf p := by
  unfold locate
  split
  · rename_i hnul
    simp only [reduceCtorEq, false_iff]
    exact fun h => absurd hnul (by simp [h.1.noNul])
  split
  · rename_i hlong
    simp only [reduceCtorEq, false_iff]
    exact fun h => absurd h.1.path (Nat.not_le.2 hlong)
  · rename_i hnul hlong
    rw [steps_eq_ok_iff]
    constructor
    · rintro ⟨hsizes, hway, hend⟩
      exact ⟨⟨by simpa using hnul, Nat.not_lt.1 hlong, hsizes⟩, hway, hend⟩
    · rintro ⟨hname, hway, hend⟩
      exact ⟨hname.names, hway, hend⟩

/-- Steps that meet no file arrive, or meet nothing at all. -/
theorem steps_of_free {parts : List String} {first : Place}
    (hsizes : ∀ part ∈ parts, part.utf8ByteSize ≤ maxNameBytes)
    (hfree : ∀ passed ∈ way first parts, ∀ content, t.node? passed ≠ some (.file content)) :
    parts.foldlM t.step first = .ok (parts.foldl next first) ∨
      parts.foldlM t.step first = .error .notFound := by
  induction parts generalizing first with
  | nil => exact .inl rfl
  | cons part parts ih =>
    rw [List.forall_mem_cons] at hsizes
    rw [way, List.forall_mem_cons] at hfree
    rw [List.foldlM_cons]
    cases hnode : t.node? first with
    | none =>
      right
      simp [step, hnode, bind, Except.bind]
    | some node =>
      cases node with
      | file content => exact absurd hnode (hfree.1 content)
      | directory =>
        rw [step_eq_ok_iff.2 ⟨hnode, hsizes.1, rfl⟩]
        exact ih hsizes.2 hfree.2

/-- Without a file on its way, only a missing directory ends a path early. -/
theorem Nameable.locate_of_free (h : Nameable p)
    (hfree : ∀ passed ∈ t.wayTo p, ∀ content, t.node? passed ≠ some (.file content)) :
    t.locate p = .ok (t.endOf p) ∨ t.locate p = .error .notFound := by
  unfold locate
  rw [h.noNul, if_neg (by simp), if_neg (Nat.not_lt.2 h.path)]
  exact steps_of_free h.names hfree

theorem utf8ByteSize_join_concat (parts : List String) (part : String) :
    (Text.join "/" parts).utf8ByteSize ≤ (Text.join "/" (parts ++ [part])).utf8ByteSize := by
  induction parts with
  | nil => simp [Text.join]
  | cons first parts ih =>
    cases parts with
    | nil =>
      simp only [List.cons_append, List.nil_append, Text.join, String.utf8ByteSize_append]
      omega
    | cons second parts =>
      simp only [List.cons_append, Text.join, String.utf8ByteSize_append] at ih ⊢
      omega

theorem Nameable.of_concat {root : String} {parts : List String} {part : String}
    (h : Nameable ⟨root, parts ++ [part]⟩) : Nameable ⟨root, parts⟩ where
  noNul := by
    have hnul := h.noNul
    simp only [hasNul, List.any_append, Bool.or_eq_false_iff] at hnul ⊢
    exact hnul.1
  path := by
    have hpath := h.path
    have hsize := utf8ByteSize_join_concat parts part
    unfold Path.render at hpath ⊢
    rw [if_neg (by simp), String.utf8ByteSize_append] at hpath
    split
    · decide
    · rw [String.utf8ByteSize_append]
      exact (Nat.add_le_add_left hsize _).trans hpath
  names := fun part hpart => h.names part (List.mem_append_left _ hpart)

/-- Some places became directories and nothing else changed. -/
structure Opened (t : FileTree) (places : List Place) (made : FileTree) : Prop where
  here : made.here = t.here
  there : ∀ place ∈ places, made.node? place = some .directory
  elsewhere : ∀ place ∉ places, made.node? place = t.node? place

theorem Opened.concat {above : FileTree} {places : List Place} (h : Opened t places above)
    (hlast : Opened above [place] made) : Opened t (places ++ [place]) made where
  here := hlast.here.trans h.here
  there other hother := by
    by_cases hplace : other ∈ [place]
    · exact hlast.there other hplace
    · rw [hlast.elsewhere other hplace]
      exact h.there other ((List.mem_append.1 hother).resolve_right hplace)
  elsewhere other hother := by
    rw [List.mem_append, not_or] at hother
    rw [hlast.elsewhere other hother.2, h.elsewhere other hother.1]

/-- A directory can be made wherever no file stands. -/
theorem opened_of_ensureDirectory (hplace : t.locate p = .ok place)
    (hfree : ∀ content, t.node? place ≠ some (.file content)) :
    ∃ made, t.ensureDirectory p = .ok made ∧ Opened t [place] made := by
  cases hnode : t.node? place with
  | none =>
    have hroot : place ≠ [] := by
      rintro rfl
      cases hnode
    refine ⟨t.put place .directory, ?_, rfl, ?_, fun other hother => ?_⟩
    · simp [ensureDirectory, makeDirectory, hplace, hnode]
    · simp [node?_put, hroot]
    · rw [node?_put, if_neg fun h => hother (List.mem_singleton.2 h.1)]
  | some node =>
    cases node with
    | file content => exact absurd hnode (hfree content)
    | directory =>
      refine ⟨t, ensureDirectory_of_directory hplace hnode, rfl, ?_, fun _ _ => rfl⟩
      simpa using hnode

theorem makeDirectories_of_above {above : FileTree} {root : String} {parts : List String}
    {part : String}
    (hmissing : t.locate ⟨root, parts ++ [part]⟩ = .error .notFound)
    (habove : t.makeDirectories ⟨root, parts⟩ = (above, .ok ()))
    (hmade : above.ensureDirectory ⟨root, parts ++ [part]⟩ = .ok made) :
    t.makeDirectories ⟨root, parts ++ [part]⟩ = (made, .ok ()) := by
  have hfault : t.ensureDirectory ⟨root, parts ++ [part]⟩ =
      .error ⟨.notFound, ⟨root, parts ++ [part]⟩⟩ := by
    simp [ensureDirectory, makeDirectory, isDirectory, look, hmissing]
  simp only [makeDirectories, List.length_append, List.length_singleton] at habove ⊢
  rw [makeDirectoriesFrom, hfault]
  simp only [Path.parent, List.dropLast_concat, habove, hmade]

/-- The parts are taken from the last, because the directory above is made where it is missing. -/
theorem makeDirectories_of_free {root : String} {parts : List String}
    (h : Nameable ⟨root, parts⟩)
    (hfree : ∀ place ∈ t.wayTo ⟨root, parts⟩ ++ [t.endOf ⟨root, parts⟩],
      ∀ content, t.node? place ≠ some (.file content)) :
    ∃ made, t.makeDirectories ⟨root, parts⟩ = (made, .ok ()) ∧
      Opened t (t.wayTo ⟨root, parts⟩ ++ [t.endOf ⟨root, parts⟩]) made := by
  induction parts using List.reverseRecOn with
  | nil =>
    have hplace : t.locate ⟨root, []⟩ = .ok (t.endOf ⟨root, []⟩) :=
      locate_eq_ok_iff.2 ⟨h, by simp [wayTo, way], rfl⟩
    obtain ⟨made, hmade, hopened⟩ := opened_of_ensureDirectory hplace (hfree _ (by simp))
    exact ⟨made, makeDirectories_of_ensured hmade, hopened⟩
  | append_singleton parts part ih =>
    have hend := hfree (t.endOf ⟨root, parts ++ [part]⟩) (by simp)
    have hway := fun place hplace => hfree place (List.mem_append_left _ hplace)
    obtain hplace | hmissing := h.locate_of_free hway
    · obtain ⟨made, hmade, hopened⟩ := opened_of_ensureDirectory hplace hend
      have hthere : Opened t (t.wayTo ⟨root, parts ++ [part]⟩) t :=
        ⟨rfl, (locate_eq_ok_iff.1 hplace).2.1, fun _ _ => rfl⟩
      exact ⟨made, makeDirectories_of_ensured hmade, hthere.concat hopened⟩
    · rw [wayTo_concat] at hway
      obtain ⟨above, habove, hopened⟩ := ih h.of_concat hway
      rw [← wayTo_concat t root _ part] at hopened
      have hplace : above.locate ⟨root, parts ++ [part]⟩ = .ok (t.endOf ⟨root, parts ++ [part]⟩) :=
        locate_eq_ok_iff.2 ⟨h, (wayTo_congr hopened.here _).symm ▸ hopened.there,
          (endOf_congr hopened.here _).symm⟩
      have hroom := makesRoom_makeDirectories t ⟨root, parts⟩
      rw [habove] at hroom
      obtain ⟨made, hmade, hlast⟩ := opened_of_ensureDirectory hplace
        fun content hcontent => hend content (hroom.file_iff.1 hcontent)
      exact ⟨made, makeDirectories_of_above hmissing habove hmade, hopened.concat hlast⟩

/-- A file can be put at the path: nothing on the way to it is a file, and its place is no
directory, neither before nor once the way is made. -/
structure HasRoom (t : FileTree) (p : Path) : Prop where
  nameable : Nameable p
  free : ∀ place ∈ t.wayTo p, ∀ content, t.node? place ≠ some (.file content)
  noDirectory : t.node? (t.endOf p) ≠ some .directory
  apart : t.endOf p ∉ t.wayTo p

/-- Where a file was stored there was room for it. -/
theorem hasRoom_of_store {content : List UInt8} (h : t.store p content = (t', .ok ())) :
    HasRoom t p := by
  obtain ⟨made, hmade, hwrite⟩ := store_eq_ok.1 h
  obtain ⟨place, hplace, hnode, -⟩ := write_eq_ok.1 hwrite
  have hroom := makesRoom_makeDirectories t p.parent
  rw [hmade] at hroom
  obtain ⟨hname, hway, rfl⟩ := locate_eq_ok_iff.1 hplace
  rw [wayTo_congr hroom.here] at hway
  rw [endOf_congr hroom.here] at hnode
  exact {
    nameable := hname
    free := fun place hmem content hcontent =>
      nomatch (hway place hmem).symm.trans (hroom.file_iff.2 hcontent)
    noDirectory := fun hdirectory => hnode (hroom.directory hdirectory)
    apart := fun hmem => hnode (hway _ hmem) }

/-- Where there is room a file can be stored. -/
theorem HasRoom.store (h : HasRoom t p) (hhere : t.node? t.here = some .directory)
    (content : List UInt8) : ∃ t', t.store p content = (t', .ok ()) := by
  obtain ⟨root, parts⟩ := p
  obtain rfl | ⟨above, part, rfl⟩ := List.eq_nil_or_concat' parts
  · refine absurd ?_ h.noDirectory
    show t.node? (t.start ⟨root, []⟩) = some .directory
    unfold start
    split
    · exact hhere
    · rfl
  · have hfree := h.free
    rw [wayTo_concat] at hfree
    obtain ⟨made, hmade, hopened⟩ := makeDirectories_of_free h.nameable.of_concat hfree
    rw [← wayTo_concat t root _ part] at hopened
    have hplace : made.locate ⟨root, above ++ [part]⟩ = .ok (t.endOf ⟨root, above ++ [part]⟩) :=
      locate_eq_ok_iff.2 ⟨h.nameable, (wayTo_congr hopened.here _).symm ▸ hopened.there,
        (endOf_congr hopened.here _).symm⟩
    have hnode := h.noDirectory
    rw [← hopened.elsewhere _ h.apart] at hnode
    refine ⟨_, store_eq_ok.2 ⟨made, ?_, write_eq_ok.2 ⟨_, hplace, hnode, rfl⟩⟩⟩
    rwa [Path.parent, List.dropLast_concat]

/-- A file that is there has room. -/
theorem hasRoom_of_file {content : List UInt8} (hplace : t.locate p = .ok place)
    (hnode : t.node? place = some (.file content)) : HasRoom t p := by
  obtain ⟨hname, hway, rfl⟩ := locate_eq_ok_iff.1 hplace
  exact {
    nameable := hname
    free := fun place hmem content hcontent => nomatch (hway place hmem).symm.trans hcontent
    noDirectory := fun hdirectory => nomatch hdirectory.symm.trans hnode
    apart := fun hmem => nomatch (hway _ hmem).symm.trans hnode }

end Bindery.FileTree
