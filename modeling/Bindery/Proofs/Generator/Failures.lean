import Bindery.Proofs.Generator.Outputs
import Bindery.Proofs.Library.Faults
/-!
# Runs that fail

Where a run fails it has either written nothing at all, or all of its sources were found and a file
below the output directory, or that directory itself, was in the way. The names of all files are
settled once the sources are found, and so are the texts, except that a writer refuses a source with
an index that is too long.
-/
namespace Bindery

open Outcome FileTree

/-- The run fails and leaves the files of `w'`. -/
def Run.Fails (x : Run σ α) (w w' : World σ) (failure : Failure) : Prop :=
  (x w).1 = w' ∧ (x w).2.outcome = .error failure

namespace Run

variable {σ α β : Type} {x : Run σ α} {w w' w'' : World σ} {a : α} {failure failure' : Failure}

/-- A run fails in one way only. -/
theorem Fails.unique (h : x.Fails w w' failure) (h' : x.Fails w w'' failure') :
    w' = w'' ∧ failure = failure' :=
  ⟨h.1.symm.trans h'.1, Except.error.inj (h.2.symm.trans h'.2)⟩

/-- A run that fails does not end well. -/
theorem Fails.not_ends (h : x.Fails w w' failure) : ¬ x.Ends w w'' a := by
  rintro ⟨-, hends⟩
  rw [h.2] at hends
  cases hends

/-- Two steps in a row fail if the first does, or the second after it. -/
theorem fails_bind {f : α → Run σ β} :
    (x >>= f).Fails w w' failure ↔ x.Fails w w' failure ∨
      ∃ w₁ a, x.Ends w w₁ a ∧ (f a).Fails w₁ w' failure := by
  unfold Fails Ends
  rw [bind_apply]
  cases houtcome : (x w).2.outcome with
  | error cause => simp
  | ok a =>
    constructor
    · exact fun h => .inr ⟨_, a, ⟨rfl, rfl⟩, h⟩
    · rintro (⟨-, h⟩ | ⟨_, _, ⟨rfl, ha⟩, h⟩)
      · cases h
      · obtain rfl := Except.ok.inj ha
        exact h

theorem not_fails_pure {c : α} : ¬ (pure c : Run σ α).Fails w w' failure := by
  rintro ⟨-, h⟩
  cases h

theorem fails_ask {f : FileTree → Traced α} :
    (ask f : Run σ α).Fails w w' failure ↔ w' = w ∧ (f w.tree).outcome = .error failure := by
  rw [eq_comm]
  rfl

theorem fails_ofExcept {outcome : Except Failure α} :
    (ofExcept outcome : Run σ α).Fails w w' failure ↔ w' = w ∧ outcome = .error failure := by
  rw [eq_comm]
  rfl

/-- A change of files fails with what its fault means, and keeps what it has changed. -/
theorem fails_change {ε : Type} {explain : ε → Failure} {f : FileTree → FileTree × Except ε α} :
    (change explain f : Run σ α).Fails w w' failure ↔
      ∃ tree cause, f w.tree = (tree, .error cause) ∧ w' = { w with tree := tree } ∧
        failure = explain cause := by
  change ({ w with tree := (f w.tree).1 } : World σ) = w' ∧
    (f w.tree).2.mapError explain = .error failure ↔ _
  rw [mapError_eq_error]
  constructor
  · rintro ⟨rfl, cause, h, rfl⟩
    exact ⟨_, cause, Prod.ext rfl h, rfl, rfl⟩
  · rintro ⟨tree, cause, h, rfl, rfl⟩
    rw [h]
    exact ⟨rfl, cause, rfl, rfl⟩

theorem fails_mapFailure {f : Failure → Failure} :
    (mapFailure f x).Fails w w' failure ↔ ∃ cause, x.Fails w w' cause ∧ failure = f cause := by
  change (x w).1 = w' ∧ (x w).2.outcome.mapError f = .error failure ↔ _
  rw [mapError_eq_error]
  constructor
  · rintro ⟨hw, cause, h, rfl⟩
    exact ⟨cause, ⟨hw, h⟩, rfl⟩
  · rintro ⟨cause, ⟨hw, h⟩, rfl⟩
    exact ⟨hw, cause, h, rfl⟩

end Run

/-- What a fault of a file means for a run that writes it. -/
inductive Explained : TextFault → Failure → Prop where
  | encoding (fault : Utf8.Fault) : Explained (.encoding fault) (.text fault)
  | system {fault : FileFault} {d : Diagnostic} : fault.fromSystem = true → d.reason = .write →
      Explained (.file fault) (.diagnostic d)
  | nul {fault : FileFault} : fault.fromSystem = false → Explained (.file fault) (.file fault)

/-- A writer explains why its file could not be stored. -/
theorem Writer.explained_explain (writer : Writer) (library : String) (file : Path)
    (cause : TextFault) : Explained cause (writer.explain library file cause) := by
  cases cause with
  | encoding fault => exact .encoding fault
  | file fault =>
    cases hfault : fault.fromSystem with
    | true =>
      simp only [Writer.explain, hfault, if_true]
      exact .system hfault rfl
    | false =>
      simp only [Writer.explain, hfault]
      exact .nul hfault

theorem Explained.explainWrite {cause : TextFault} {failure : Failure} (h : Explained cause failure)
    (outDir : Path) (s : Source) : Explained cause (Generator.explainWrite outDir s failure) := by
  cases h with
  | encoding fault => exact .encoding fault
  | system hfault hd => exact .system hfault hd
  | nul hfault =>
    simp only [Generator.explainWrite, hfault]
    exact .nul hfault

/-- A fault of a file is reported as one of writing, if it is reported. -/
theorem Explained.write_or_raw {cause : TextFault} {failure : Failure}
    (h : Explained cause failure) :
    (∀ d, failure = .diagnostic d → d.reason = .write) ∧
      ∀ message, failure ≠ .disagreement message := by
  cases h with
  | encoding _ | nul _ => simp
  | system _ hd => simpa using hd

/-- Where one of the files `made` cannot be stored below a directory, the step fails there; `P`
tells which files these are. -/
def Run.Breaks (x : Run σ Unit) (outDir : Path) (P : List (String × String) → Prop) : Prop :=
  ∀ made, P made → ∀ (w : World σ) tree cause, Stuck w.tree (updatesBelow outDir made) tree cause →
    ∃ failure, Explained cause failure ∧ x.Fails w { w with tree := tree } failure

section

variable {σ : Type} {x y : Run σ Unit} {outDir : Path} {s : Source}
  {P Q : List (String × String) → Prop}

theorem Run.breaks_pure : (pure () : Run σ Unit).Breaks outDir (· = []) := by
  rintro _ rfl w tree cause hstuck
  cases hstuck

theorem Run.Breaks.congr (h : x.Breaks outDir P) (hPQ : ∀ made, P made ↔ Q made) :
    x.Breaks outDir Q :=
  fun made hmade => h made ((hPQ made).2 hmade)

/-- Two steps in a row break at a file of the first, or at one of the second behind those of the
first. -/
theorem Run.Breaks.andThen (hstores : x.Stores outDir P) (hx : x.Breaks outDir P)
    (hy : y.Breaks outDir Q) : (x >>= fun _ => y).Breaks outDir fun made =>
      ∃ first rest, P first ∧ Q rest ∧ made = first ++ rest := by
  rintro _ ⟨first, rest, hfirst, hrest, rfl⟩ w tree cause hstuck
  rw [updatesBelow, List.map_append, stuck_append_iff] at hstuck
  obtain hstuck | ⟨tree', hupdated, hstuck⟩ := hstuck
  · obtain ⟨failure, hexplained, hfails⟩ := hx first hfirst w tree cause hstuck
    exact ⟨failure, hexplained, Run.fails_bind.2 (.inl hfails)⟩
  · obtain ⟨failure, hexplained, hfails⟩ :=
      hy rest hrest { w with tree := tree' } tree cause hstuck
    have hends := (hstores w _).2 ⟨first, tree', hfirst, hupdated, rfl⟩
    exact ⟨failure, hexplained, Run.fails_bind.2 (.inr ⟨_, (), hends, hfails⟩)⟩

/-- A step that stores its files, and breaks where one of them is stuck, fails nowhere else. -/
theorem Run.Breaks.exists_stuck (hx : x.Breaks outDir P) (hstores : x.Stores outDir P)
    {made : List (String × String)} (hmade : P made) {w w' : World σ} {failure : Failure}
    (h : x.Fails w w' failure) : ∃ tree cause, Stuck w.tree (updatesBelow outDir made) tree cause ∧
      Explained cause failure ∧ w' = { w with tree := tree } := by
  obtain ⟨tree, hupdated⟩ | ⟨tree, cause, hstuck⟩ :=
    updated_or_stuck w.tree (updatesBelow outDir made)
  · exact absurd ((hstores w _).2 ⟨made, tree, hmade, hupdated, rfl⟩) h.not_ends
  · obtain ⟨failure', hexplained, hfails⟩ := hx made hmade w tree cause hstuck
    obtain ⟨rfl, rfl⟩ := h.unique hfails
    exact ⟨tree, cause, hstuck, hexplained, rfl⟩

/-- A writer breaks where its one file cannot be stored. -/
theorem Writer.breaks_write (writer : Writer) :
    (writer.write s outDir : Run σ Unit).Breaks outDir fun made =>
      ∃ entry, writer.Makes s entry ∧ made = [entry] := by
  rintro _ ⟨⟨filename, text⟩, ⟨hname, htext⟩, rfl⟩ w tree cause hstuck
  cases hstuck with
  | later _ hrest => cases hrest
  | here hupdate =>
    refine ⟨_, writer.explained_explain s.library (outDir.append filename) cause, ?_⟩
    simp only [Writer.write]
    rw [hname, htext]
    refine Run.fails_bind.2 (.inr ⟨w, filename, Run.ends_ofExcept.2 ⟨rfl, rfl⟩, ?_⟩)
    refine Run.fails_bind.2 (.inr ⟨w, text, Run.ends_ofExcept.2 ⟨rfl, rfl⟩, ?_⟩)
    exact Run.fails_bind.2 (.inl (Run.fails_change.2 ⟨tree, cause, hupdate, rfl, rfl⟩))

namespace Generator

/-- The writers of a source break at the first file that cannot be stored. -/
theorem breaks_writeWith (writers : List Writer) :
    (writeWith s outDir writers : Run σ Unit).Breaks outDir (MadeBy writers s) := by
  induction writers with
  | nil => exact Run.breaks_pure.congr fun made => List.forall₂_nil_left_iff.symm
  | cons writer writers ih =>
    exact (Run.Breaks.andThen writer.stores_write writer.breaks_write ih).congr
      fun made => madeBy_cons

theorem breaks_writeFrom (writers : List Writer) :
    (Run.mapFailure (explainWrite outDir s) (writeWith s outDir writers) : Run σ Unit).Breaks
      outDir (MadeBy writers s) := by
  intro made hmade w tree cause hstuck
  obtain ⟨failure, hexplained, hfails⟩ := breaks_writeWith writers made hmade w tree cause hstuck
  exact ⟨_, hexplained.explainWrite outDir s, Run.fails_mapFailure.2 ⟨failure, hfails, rfl⟩⟩

/-- The generation of all sources breaks at the first file that cannot be stored. -/
theorem breaks_writeSources (writers : List Writer) (sources : List Source) :
    ((ofWriters writers).writeSources outDir sources : Run σ Unit).Breaks outDir
      (MadeFor writers sources) := by
  induction sources with
  | nil => exact Run.breaks_pure.congr fun made => madeFor_nil
  | cons s sources ih =>
    exact (Run.Breaks.andThen (stores_writeFrom writers) (breaks_writeFrom writers) ih).congr
      fun made => madeFor_cons

end Generator

end

/-- The writer has a file name for a source and refuses its text. -/
structure Writer.Refuses (writer : Writer) (s : Source) (message : String) : Prop where
  filename : ∃ filename, writer.outputFilename (s.config.sectionFor writer.language) s.interface =
    .ok filename
  text : ∃ fault, writer.render (s.config.sectionFor writer.language) s.interface = .error fault ∧
    fault.report = .error message

/-- The step stores the files `made` and fails behind them with a message, unless one of them cannot
be stored and it fails there; `Q` tells which files and messages these are. -/
def Run.Balks (x : Run σ Unit) (outDir : Path) (Q : List (String × String) → String → Prop) :
    Prop :=
  ∀ made message, Q made message → ∀ (w : World σ) tree,
    (Updated w.tree (updatesBelow outDir made) tree →
      x.Fails w { w with tree := tree } (.value message)) ∧
    ∀ cause, Stuck w.tree (updatesBelow outDir made) tree cause →
      ∃ failure, Explained cause failure ∧ x.Fails w { w with tree := tree } failure

section

variable {σ : Type} {x y : Run σ Unit} {outDir : Path} {s : Source}
  {P : List (String × String) → Prop} {Q : List (String × String) → String → Prop}

theorem Run.Balks.first (hx : x.Balks outDir Q) : (x >>= fun _ => y).Balks outDir Q := by
  intro made message hQ w tree
  obtain ⟨hrefused, hbroken⟩ := hx made message hQ w tree
  refine ⟨fun hupdated => Run.fails_bind.2 (.inl (hrefused hupdated)), fun cause hstuck => ?_⟩
  obtain ⟨failure, hexplained, hfails⟩ := hbroken cause hstuck
  exact ⟨failure, hexplained, Run.fails_bind.2 (.inl hfails)⟩

/-- What the second step refuses stops both, behind the files of the first. -/
theorem Run.Balks.andThen (hstores : x.Stores outDir P) (hbreaks : x.Breaks outDir P)
    (hy : y.Balks outDir Q) : (x >>= fun _ => y).Balks outDir fun made message =>
      ∃ first rest, P first ∧ Q rest message ∧ made = first ++ rest := by
  rintro _ message ⟨first, rest, hfirst, hrest, rfl⟩ w tree
  have hends {tree' : FileTree} (hupdated : Updated w.tree (updatesBelow outDir first) tree') :
      x.Ends w { w with tree := tree' } () := (hstores w _).2 ⟨first, tree', hfirst, hupdated, rfl⟩
  rw [updatesBelow, List.map_append]
  constructor
  · intro hupdated
    obtain ⟨tree', hupdated, hupdated'⟩ := updated_append_iff.1 hupdated
    have hrefused := (hy rest message hrest { w with tree := tree' } tree).1 hupdated'
    exact Run.fails_bind.2 (.inr ⟨_, (), hends hupdated, hrefused⟩)
  · intro cause hstuck
    obtain hstuck | ⟨tree', hupdated, hstuck⟩ := stuck_append_iff.1 hstuck
    · obtain ⟨failure, hexplained, hfails⟩ := hbreaks first hfirst w tree cause hstuck
      exact ⟨failure, hexplained, Run.fails_bind.2 (.inl hfails)⟩
    · obtain ⟨failure, hexplained, hfails⟩ :=
        (hy rest message hrest { w with tree := tree' } tree).2 cause hstuck
      exact ⟨failure, hexplained, Run.fails_bind.2 (.inr ⟨_, (), hends hupdated, hfails⟩)⟩

/-- A step that stores its files or balks behind them, and fails, balks or is stuck. -/
theorem Run.Balks.updated_or_stuck (hx : x.Balks outDir Q) {made : List (String × String)}
    {message : String} (hQ : Q made message) {w w' : World σ} {failure : Failure}
    (h : x.Fails w w' failure) : ∃ tree, w' = { w with tree := tree } ∧
      (Updated w.tree (updatesBelow outDir made) tree ∧ failure = .value message ∨
        ∃ cause, Stuck w.tree (updatesBelow outDir made) tree cause ∧ Explained cause failure) := by
  obtain ⟨tree, hupdated⟩ | ⟨tree, cause, hstuck⟩ :=
    FileTree.updated_or_stuck w.tree (updatesBelow outDir made)
  · obtain ⟨rfl, rfl⟩ := h.unique ((hx made message hQ w tree).1 hupdated)
    exact ⟨tree, rfl, .inl ⟨hupdated, rfl⟩⟩
  · obtain ⟨failure', hexplained, hfails⟩ := (hx made message hQ w tree).2 cause hstuck
    obtain ⟨rfl, rfl⟩ := h.unique hfails
    exact ⟨tree, rfl, .inr ⟨cause, hstuck, hexplained⟩⟩

theorem Writer.balks_write (writer : Writer) :
    (writer.write s outDir : Run σ Unit).Balks outDir fun made message =>
      made = [] ∧ writer.Refuses s message := by
  rintro _ message ⟨rfl, ⟨filename, hname⟩, fault, htext, hreport⟩ w tree
  constructor
  · rintro ⟨⟩
    have hraw : Failure.ofInterface fault = .value message := by
      rw [Failure.ofInterface, hreport]
    simp only [Writer.write]
    rw [hname, htext]
    refine Run.fails_bind.2 (.inr ⟨w, filename, Run.ends_ofExcept.2 ⟨rfl, rfl⟩, ?_⟩)
    exact Run.fails_bind.2 (.inl (Run.fails_ofExcept.2 ⟨rfl, congrArg Except.error hraw⟩))
  · rintro cause ⟨⟩

namespace Generator

/-- The files of a source in front of the first writer that refuses its text. -/
inductive UnmadeBy (s : Source) : List Writer → List (String × String) → String → Prop where
  | here {writer : Writer} {writers : List Writer} {message : String} :
      writer.Refuses s message → UnmadeBy s (writer :: writers) [] message
  | later {writer : Writer} {writers : List Writer} {entry : String × String}
      {made : List (String × String)} {message : String} : writer.Makes s entry →
      UnmadeBy s writers made message → UnmadeBy s (writer :: writers) (entry :: made) message

/-- The files of some sources in front of the first text that is refused. -/
inductive UnmadeFor (writers : List Writer) :
    List Source → List (String × String) → String → Prop where
  | here {s : Source} {sources : List Source} {made : List (String × String)} {message : String} :
      UnmadeBy s writers made message → UnmadeFor writers (s :: sources) made message
  | later {s : Source} {sources : List Source} {part made : List (String × String)}
      {message : String} : MadeBy writers s part → UnmadeFor writers sources made message →
      UnmadeFor writers (s :: sources) (part ++ made) message

theorem balks_writeWith (writers : List Writer) :
    (writeWith s outDir writers : Run σ Unit).Balks outDir (UnmadeBy s writers) := by
  induction writers with
  | nil =>
    rintro made message ⟨⟩
  | cons writer writers ih =>
    intro made message h
    cases h with
    | here hrefuses => exact Run.Balks.first writer.balks_write [] message ⟨rfl, hrefuses⟩
    | @later _ _ entry rest _ hmakes hrest =>
      exact Run.Balks.andThen writer.stores_write writer.breaks_write ih _ _
        ⟨[entry], rest, ⟨entry, hmakes, rfl⟩, hrest, rfl⟩

theorem balks_writeFrom (writers : List Writer) :
    (Run.mapFailure (explainWrite outDir s) (writeWith s outDir writers) : Run σ Unit).Balks
      outDir (UnmadeBy s writers) := by
  intro made message h w tree
  obtain ⟨hrefused, hbroken⟩ : _ ∧ _ := balks_writeWith writers made message h w tree
  refine ⟨fun hupdated => Run.fails_mapFailure.2 ⟨_, hrefused hupdated, rfl⟩,
    fun cause hstuck => ?_⟩
  obtain ⟨failure, hexplained, hfails⟩ := hbroken cause hstuck
  exact ⟨_, hexplained.explainWrite outDir s, Run.fails_mapFailure.2 ⟨failure, hfails, rfl⟩⟩

/-- The generation of all sources stops at the first text that a writer refuses. -/
theorem balks_writeSources (writers : List Writer) (sources : List Source) :
    ((ofWriters writers).writeSources outDir sources : Run σ Unit).Balks outDir
      (UnmadeFor writers sources) := by
  induction sources with
  | nil =>
    rintro made message ⟨⟩
  | cons s sources ih =>
    intro made message h
    cases h with
    | here hunmade => exact Run.Balks.first (balks_writeFrom writers) made message hunmade
    | @later _ _ part rest _ hpart hrest =>
      exact Run.Balks.andThen (stores_writeFrom writers) (breaks_writeFrom writers) ih _ _
        ⟨part, rest, hpart, hrest, rfl⟩

end Generator

end

namespace Generator

variable {languages : List String} {writers : List Writer} {r : Request} {outDir : Path}
  {t t' : FileTree} {w w' : World Unit} {found chosen : List Source} {owners : Owners}
  {failure : Failure}

/-- The writers of the languages of a run, of which there must be one. -/
structure Speaks (languages : List String) (writers : List Writer) : Prop where
  given : languages ≠ []
  known : (Order.distinct languages).mapM Writer.forLanguage = .ok writers

/-- What a run knows when it looks for sources. -/
abbrev context (writers : List Writer) (r : Request) : Library.Context :=
  ⟨Library.cdylibName r.library, r.config, r.roots, writers.map Writer.language⟩

/-- The library file is one that the writers accept. -/
abbrev Suits (writers : List Writer) (r : Request) : Prop :=
  checkLibrary (writers.map Writer.language) r.library (Library.cdylibName r.library) = .ok ()

/-- Why writers that are known do not come to write. -/
inductive Refused (writers : List Writer) (r : Request) (t : FileTree) (failure : Failure) :
    Prop where
  | library (h : checkLibrary (writers.map Writer.language) r.library
      (Library.cdylibName r.library) = .error failure)
  | sources (haccepted : Suits writers r)
      (h : (Library.sources t (context writers r) r.library).outcome = .error failure)
  | selection {found : List Source} (haccepted : Suits writers r)
      (hfound : (Library.sources t (context writers r) r.library).outcome = .ok found)
      (h : r.select found = .error failure)
  | claims {found chosen : List Source} (haccepted : Suits writers r)
      (hfound : (Library.sources t (context writers r) r.library).outcome = .ok found)
      (hselected : r.select found = .ok chosen)
      (h : chosen.foldlM (Owners.claimAll (ofWriters writers : Generator Unit)) Table.empty =
        .error failure)

/-- Why a run ends before it writes anything. -/
inductive Unprepared (languages : List String) (r : Request) (t : FileTree) (failure : Failure) :
    Prop where
  | speechless (h : (forLanguages languages : Except Failure (Generator Unit)) = .error failure)
  | refused {writers : List Writer} (hspeaks : Speaks languages writers)
      (h : Refused writers r t failure)

/-- The files that a run stores unless one of them is in the way: all of those of the sources, or
those in front of a text that is refused. -/
def Planned (writers : List Writer) (sources : List Source) (made : List (String × String)) :
    Prop :=
  MadeFor writers sources made ∨ ∃ message, UnmadeFor writers sources made message

/-- What is in the way of the files of the chosen sources. -/
inductive Interrupted (writers : List Writer) (chosen : List Source) (outDir : Path)
    (t t' : FileTree) : TextFault → Prop where
  | outDir {fault : FileFault} : t.makeDirectories outDir = (t', .error fault) →
      Interrupted writers chosen outDir t t' (.file fault)
  | file {room : FileTree} {made : List (String × String)} {cause : TextFault} :
      t.makeDirectories outDir = (room, .ok ()) → Planned writers chosen made →
      Stuck room (updatesBelow outDir made) t' cause →
      Interrupted writers chosen outDir t t' cause

/-- The files in front of a text that is refused are stored. -/
inductive Balked (writers : List Writer) (chosen : List Source) (outDir : Path) (t t' : FileTree)
    (message : String) : Prop where
  | text {room : FileTree} {made : List (String × String)} :
      t.makeDirectories outDir = (room, .ok ()) → UnmadeFor writers chosen made message →
      Updated room (updatesBelow outDir made) t' → Balked writers chosen outDir t t' message

/-- To prepare a run changes nothing, also where the run is refused. -/
theorem fails_prepare :
    ((ofWriters writers).prepare r).Fails w w' failure ↔
      w' = w ∧ Refused writers r w.tree failure := by
  simp only [prepare, Run.fails_bind, Run.fails_ofExcept, Run.fails_ask, Run.not_fails_pure,
    Run.ends_ofExcept, Run.ends_ask, and_false, exists_false, or_false]
  constructor
  · rintro (hcheck | ⟨_, _, hcheck, h | ⟨_, found, ⟨rfl, hfound⟩, h | ⟨_, chosen, ⟨rfl, hselected⟩,
      rfl, h⟩⟩⟩)
    · obtain ⟨rfl, hrefused⟩ := Run.fails_ofExcept.1 hcheck
      exact ⟨rfl, .library hrefused⟩
    · obtain ⟨rfl, haccepted⟩ := Run.ends_ofExcept.1 hcheck
      exact ⟨h.1, .sources haccepted h.2⟩
    · obtain ⟨rfl, haccepted⟩ := Run.ends_ofExcept.1 hcheck
      exact ⟨h.1, .selection haccepted hfound h.2⟩
    · obtain ⟨rfl, haccepted⟩ := Run.ends_ofExcept.1 hcheck
      exact ⟨rfl, .claims haccepted hfound hselected h⟩
  · rintro ⟨rfl, h⟩
    cases h with
    | library h => exact .inl (Run.fails_ofExcept.2 ⟨rfl, h⟩)
    | sources haccepted h =>
      exact .inr ⟨_, (), Run.ends_ofExcept.2 ⟨rfl, haccepted⟩, .inl ⟨rfl, h⟩⟩
    | selection haccepted hfound h =>
      exact .inr ⟨_, (), Run.ends_ofExcept.2 ⟨rfl, haccepted⟩, .inr ⟨_, _, ⟨rfl, hfound⟩,
        .inl ⟨rfl, h⟩⟩⟩
    | claims haccepted hfound hselected h =>
      exact .inr ⟨_, (), Run.ends_ofExcept.2 ⟨rfl, haccepted⟩, .inr ⟨_, _, ⟨rfl, hfound⟩,
        .inr ⟨_, _, ⟨rfl, hselected⟩, rfl, h⟩⟩⟩

/-- A source with a public name has a file name and a text in a language, or the text is refused. -/
theorem makes_or_refuses (writer : Writer) {s : Source} {name : String}
    (hname : s.interface.space = some name) :
    (∃ entry, writer.Makes s entry) ∨ ∃ message, writer.Refuses s message := by
  have hspace := Interface.namespaceName_eq_ok.2 hname
  have hfilename : ∃ filename, writer.outputFilename (s.config.sectionFor writer.language)
      s.interface = .ok filename := by
    unfold Writer.outputFilename
    split
    · exact ⟨_, bind_eq_ok.2 ⟨name, hspace, rfl⟩⟩
    · exact ⟨_, rfl⟩
  have hmade {text : String} (htext : writer.render (s.config.sectionFor writer.language)
      s.interface = .ok text) : ∃ entry, writer.Makes s entry := by
    obtain ⟨filename, hfilename⟩ := hfilename
    exact ⟨(filename, text), hfilename, htext⟩
  cases writer with
  | python => exact .inl (hmade (map_eq_ok.2 ⟨name, hspace, rfl⟩))
  | json =>
    by_cases hshort : ∀ item ∈ s.interface.items, item.HasShortIndex
    · exact .inl (hmade (Description.render_short hname hshort))
    · push Not at hshort
      obtain ⟨item, hitem, hlong⟩ := hshort
      exact .inr ⟨_, hfilename, _, Description.render_long hname hitem hlong, rfl⟩

theorem Prepares.exists_space (h : Prepares writers r t found chosen owners) :
    ∀ s ∈ chosen, ∃ name, s.interface.space = some name := fun _ hs =>
  Library.exists_space_of_sources h.sources (Request.mem_of_select h.selected hs)

theorem madeBy_or_unmadeBy {s : Source} {name : String} (hname : s.interface.space = some name)
    (writers : List Writer) :
    (∃ made, MadeBy writers s made) ∨ ∃ made message, UnmadeBy s writers made message := by
  induction writers with
  | nil => exact .inl ⟨[], .nil⟩
  | cons writer writers ih =>
    obtain ⟨entry, hmakes⟩ | ⟨message, hrefuses⟩ := makes_or_refuses writer hname
    · obtain ⟨made, hmade⟩ | ⟨made, message, hunmade⟩ := ih
      · exact .inl ⟨entry :: made, .cons hmakes hmade⟩
      · exact .inr ⟨entry :: made, message, .later hmakes hunmade⟩
    · exact .inr ⟨[], message, .here hrefuses⟩

/-- The files of all sources can be told, or one text is refused. -/
theorem madeFor_or_unmadeFor (writers : List Writer) {sources : List Source}
    (h : ∀ s ∈ sources, ∃ name, s.interface.space = some name) :
    (∃ made, MadeFor writers sources made) ∨
      ∃ made message, UnmadeFor writers sources made message := by
  induction sources with
  | nil => exact .inl ⟨[], madeFor_nil.1 rfl⟩
  | cons s sources ih =>
    obtain ⟨⟨name, hname⟩, hsources⟩ := List.forall_mem_cons.1 h
    obtain ⟨part, hpart⟩ | ⟨made, message, hunmade⟩ := madeBy_or_unmadeBy hname writers
    · obtain ⟨made, hmade⟩ | ⟨made, message, hunmade⟩ := ih hsources
      · exact .inl ⟨part ++ made, madeFor_cons.1 ⟨part, made, hpart, hmade, rfl⟩⟩
      · exact .inr ⟨part ++ made, message, .later hpart hunmade⟩
    · exact .inr ⟨made, message, .here hunmade⟩

/-- There is a generator exactly if every language is spoken. -/
theorem forLanguages_eq_ok {g : Generator Unit} :
    forLanguages languages = .ok g ↔
      ∃ writers, Speaks languages writers ∧ g = ofWriters writers := by
  unfold forLanguages
  constructor
  · intro h
    split at h
    · cases h
    · rename_i hgiven
      split at h
      · cases h
      · rename_i writers hwriters
        exact ⟨writers, ⟨hgiven, hwriters⟩, (Except.ok.inj h).symm⟩
  · rintro ⟨writers, ⟨hgiven, hwriters⟩, rfl⟩
    rw [if_neg hgiven, hwriters]

theorem explained_explainOutDir (outDir : Path) (fault : FileFault) :
    Explained (.file fault) (explainOutDir outDir fault) := by
  unfold explainOutDir
  split
  · rename_i hfault
    exact .system hfault rfl
  · rename_i hfault
    exact .nul (Bool.eq_false_iff.2 hfault)

theorem ends_forLanguages (hspeaks : Speaks languages writers) :
    (Run.ofExcept (forLanguages languages) : Run Unit (Generator Unit)).Ends w w
      (ofWriters writers) :=
  Run.ends_ofExcept.2 ⟨rfl, forLanguages_eq_ok.2 ⟨writers, hspeaks, rfl⟩⟩

/-- What keeps a run from being prepared is how it fails, and no file has changed. -/
theorem Unprepared.fails (h : Unprepared languages r w.tree failure) :
    (generate languages r outDir).Fails w w failure := by
  cases h with
  | speechless h => exact Run.fails_bind.2 (.inl (Run.fails_ofExcept.2 ⟨rfl, h⟩))
  | refused hspeaks h =>
    refine Run.fails_bind.2 (.inr ⟨w, _, ends_forLanguages hspeaks, ?_⟩)
    exact Run.fails_bind.2 (.inl (fails_prepare.2 ⟨rfl, h⟩))

/-- Once there is room for the output, a run fails as the writing of its sources does. -/
theorem fails_of_writeSources (hspeaks : Speaks languages writers)
    (hprepares : Prepares writers r w.tree found chosen owners) {room : FileTree}
    (hmake : w.tree.makeDirectories outDir = (room, .ok ()))
    (h : ((ofWriters writers).writeSources outDir chosen).Fails { w with tree := room } w' failure) :
    (generate languages r outDir).Fails w w' failure := by
  have hchosen := ends_prepare.2 ⟨rfl, found, owners, hprepares⟩
  have hroom : (Run.change (explainOutDir outDir) (·.makeDirectories outDir)).Ends w
    { w with tree := room } () := Run.ends_change.2 ⟨room, hmake, rfl⟩
  refine Run.fails_bind.2 (.inr ⟨w, _, ends_forLanguages hspeaks, ?_⟩)
  refine Run.fails_bind.2 (.inr ⟨w, chosen, hchosen, Run.fails_bind.2 (.inr ?_)⟩)
  exact ⟨_, (), hroom, Run.fails_bind.2 (.inl h)⟩

/-- What is in the way makes the run fail, and the failure tells what it is. -/
theorem Interrupted.fails (hspeaks : Speaks languages writers)
    (hprepares : Prepares writers r w.tree found chosen owners) {tree : FileTree}
    {cause : TextFault} (h : Interrupted writers chosen outDir w.tree tree cause) :
    ∃ failure, Explained cause failure ∧
      (generate languages r outDir).Fails w { w with tree := tree } failure := by
  cases h with
  | @outDir fault hmake =>
    refine ⟨_, explained_explainOutDir outDir fault, ?_⟩
    have hchosen := ends_prepare.2 ⟨rfl, found, owners, hprepares⟩
    refine Run.fails_bind.2 (.inr ⟨w, _, ends_forLanguages hspeaks, ?_⟩)
    refine Run.fails_bind.2 (.inr ⟨w, chosen, hchosen, Run.fails_bind.2 (.inl ?_)⟩)
    exact Run.fails_change.2 ⟨tree, fault, hmake, rfl, rfl⟩
  | @file room made cause hmake hplanned hstuck =>
    obtain hmade | ⟨message, hunmade⟩ := hplanned
    · obtain ⟨failure, hexplained, hfails⟩ :=
        breaks_writeSources writers chosen made hmade { w with tree := room } tree cause hstuck
      exact ⟨failure, hexplained, fails_of_writeSources hspeaks hprepares hmake hfails⟩
    · obtain ⟨failure, hexplained, hfails⟩ :=
        (balks_writeSources writers chosen made message hunmade { w with tree := room } tree).2
          cause hstuck
      exact ⟨failure, hexplained, fails_of_writeSources hspeaks hprepares hmake hfails⟩

/-- A text that is refused makes the run fail. -/
theorem Balked.fails (hspeaks : Speaks languages writers)
    (hprepares : Prepares writers r w.tree found chosen owners) {tree : FileTree} {message : String}
    (h : Balked writers chosen outDir w.tree tree message) :
    (generate languages r outDir).Fails w { w with tree := tree } (.value message) := by
  cases h with
  | @text room made hmake hunmade hupdated =>
    have hfails := (balks_writeSources writers chosen made message hunmade { w with tree := room }
      tree).1 hupdated
    exact fails_of_writeSources hspeaks hprepares hmake hfails

/-- A run that fails has not come to write, or something is in the way of its files, or a text is
refused. -/
theorem unprepared_or_interrupted_or_balked
    (h : (generate languages r outDir).Fails w w' failure) :
    (w' = w ∧ Unprepared languages r w.tree failure) ∨
      ∃ writers found chosen owners tree, Speaks languages writers ∧
        Prepares writers r w.tree found chosen owners ∧ w' = { w with tree := tree } ∧
        ((∃ cause, Interrupted writers chosen outDir w.tree tree cause ∧ Explained cause failure) ∨
          ∃ message, Balked writers chosen outDir w.tree tree message ∧
            failure = .value message) := by
  obtain hgenerator | ⟨_, g, hgenerator, hrun⟩ := Run.fails_bind.1 h
  · obtain ⟨rfl, hspeechless⟩ := Run.fails_ofExcept.1 hgenerator
    exact .inl ⟨rfl, .speechless hspeechless⟩
  obtain ⟨rfl, hwriters⟩ := Run.ends_ofExcept.1 hgenerator
  obtain ⟨writers, hspeaks, rfl⟩ := forLanguages_eq_ok.1 hwriters
  obtain hprepare | ⟨_, chosen, hprepare, hstore⟩ := Run.fails_bind.1 hrun
  · obtain ⟨rfl, hrefused⟩ := fails_prepare.1 hprepare
    exact .inl ⟨rfl, .refused hspeaks hrefused⟩
  obtain ⟨rfl, found, owners, hprepares⟩ := ends_prepare.1 hprepare
  obtain hroom | ⟨_, _, hroom, hwrite⟩ := Run.fails_bind.1 hstore
  · obtain ⟨tree, fault, hmake, rfl, rfl⟩ := Run.fails_change.1 hroom
    exact .inr ⟨writers, found, chosen, owners, tree, hspeaks, hprepares, rfl,
      .inl ⟨.file fault, .outDir hmake, explained_explainOutDir outDir fault⟩⟩
  obtain ⟨room, hmake, rfl⟩ := Run.ends_change.1 hroom
  obtain hsources | ⟨_, _, -, hpure⟩ := Run.fails_bind.1 hwrite
  · obtain ⟨made, hmade⟩ | ⟨made, message, hunmade⟩ :=
      madeFor_or_unmadeFor writers hprepares.exists_space
    · obtain ⟨tree, cause, hstuck, hexplained, rfl⟩ :=
        (breaks_writeSources writers chosen).exists_stuck (stores_writeSources writers chosen) hmade
          hsources
      exact .inr ⟨writers, found, chosen, owners, tree, hspeaks, hprepares, rfl,
        .inl ⟨cause, .file hmake (.inl hmade) hstuck, hexplained⟩⟩
    · obtain ⟨tree, rfl, ⟨hupdated, rfl⟩ | ⟨cause, hstuck, hexplained⟩⟩ :=
        (balks_writeSources writers chosen).updated_or_stuck hunmade hsources
      · exact .inr ⟨writers, found, chosen, owners, tree, hspeaks, hprepares, rfl,
          .inr ⟨message, .text hmake hunmade hupdated, rfl⟩⟩
      · exact .inr ⟨writers, found, chosen, owners, tree, hspeaks, hprepares, rfl,
          .inl ⟨cause, .file hmake (.inr ⟨message, hunmade⟩) hstuck, hexplained⟩⟩
  · exact absurd hpure Run.not_fails_pure

end Generator

/-- A run that ends with a report, or over names that disagree, has changed nothing, unless the
report is that something cannot be written. And where a run that fails has changed anything, all of
its sources were found and all files were claimed. -/
theorem refusals_change_nothing {languages : List String} {r : Request} {outDir : Path}
    {w w' : World Unit} {failure : Failure}
    (h : (generate languages r outDir).Fails w w' failure) :
    ((∃ d, failure = .diagnostic d ∧ d.reason ≠ .write) ∨
      (∃ message, failure = .disagreement message) → w' = w) ∧
    (w' ≠ w → ∃ writers found chosen owners, Generator.Speaks languages writers ∧
      Generator.Prepares writers r w.tree found chosen owners) := by
  obtain ⟨hw, -⟩ | ⟨writers, found, chosen, owners, tree, hspeaks, hprepares, -, hwritten⟩ :=
    Generator.unprepared_or_interrupted_or_balked h
  · exact ⟨fun _ => hw, fun hne => absurd hw hne⟩
  · refine ⟨?_, fun _ => ⟨writers, found, chosen, owners, hspeaks, hprepares⟩⟩
    obtain ⟨cause, -, hexplained⟩ | ⟨message, -, rfl⟩ := hwritten
    · rintro (⟨d, hd, hreason⟩ | ⟨message, hmessage⟩)
      · exact absurd (hexplained.write_or_raw.1 d hd) hreason
      · exact absurd hmessage (hexplained.write_or_raw.2 message)
    · rintro (⟨d, hd, -⟩ | ⟨message', hmessage⟩)
      · cases hd
      · cases hmessage

/-- Two libraries that claim one file: the run is refused, and no output directory is left. -/
theorem refusals_change_nothing_clash :
    ∃ w', (generate ["json"] twoRequest ⟨"", ["out"]⟩).Fails ⟨twoLibraries "api" "api", ()⟩ w'
        (.diagnostic (Owners.clash "a" "b" "api.json" "json")) ∧
      w' = ⟨twoLibraries "api" "api", ()⟩ := by
  have hfound : (Library.sourcesOfItems (twoLibraries "api" "api")
      ⟨some "x", .inRoot, twoRequest.roots, ["json"]⟩ twoSpaces).outcome.toOption =
        some (twoSources "api" "api") := by decide +kernel
  have hclash : (twoSources "api" "api").foldlM
      (Owners.claimAll (Generator.ofWriters [.json] : Generator Unit)) Table.empty =
        .error (.diagnostic (Owners.clash "a" "b" "api.json" "json")) := rfl
  have hrefused : Generator.Refused [.json] twoRequest (twoLibraries "api" "api")
      (.diagnostic (Owners.clash "a" "b" "api.json" "json")) :=
    .claims rfl (sources_twoLibraries hfound) rfl hclash
  have hfails : (generate ["json"] twoRequest ⟨"", ["out"]⟩).Fails
      ⟨twoLibraries "api" "api", ()⟩ ⟨twoLibraries "api" "api", ()⟩
        (.diagnostic (Owners.clash "a" "b" "api.json" "json")) :=
    Generator.Unprepared.fails (.refused ⟨by decide, rfl⟩ hrefused)
  have hreason : (Owners.clash "a" "b" "api.json" "json").reason ≠ .write := by decide
  exact ⟨_, hfails, (refusals_change_nothing hfails).1 (.inl ⟨_, rfl, hreason⟩)⟩

end Bindery
