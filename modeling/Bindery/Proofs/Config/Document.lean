import Bindery.Config.Document
import Bindery.Proofs.Order
import Bindery.Proofs.Outcome
/-!
# Which settings documents are read

The format of a settings document, told with a parameter for what stands for a map that is left out.
The reader takes null for that and also every other blank value, and what it reads is given by the
document: each text, each entry of a map and each section as it is written.
-/
namespace Bindery.Config

open Json Outcome

/-- A text that is not empty. -/
inductive IsName : Json → Prop where
  | str {s : String} (h : s ≠ "") : IsName (.str s)

/-- A number that is zero, or false, which is equal to it. -/
inductive EqualsZero : Json → Prop where
  | int : EqualsZero (.int 0)
  | float (negative : Bool) (exponent : Int) : EqualsZero (.float (.finite negative 0 exponent))
  | false : EqualsZero (.bool false)

/-- An object whose values are of one kind, or what stands for a map that is left out. -/
inductive IsMap (absent value : Json → Prop) : Json → Prop where
  | absent {j : Json} (h : absent j) : IsMap absent value j
  | obj {entries : List (String × Json)} (h : ∀ entry ∈ entries, value entry.2) :
      IsMap absent value (.obj entries)

/-- The settings for one language. -/
inductive IsSection (absent : Json → Prop) : Json → Prop where
  | obj {members : List (String × Json)}
      (keys : ∀ m ∈ members,
        m.1 ∈ ["module_name", "cdylib_name", "package_name", "external_packages", "rename"])
      (texts : ∀ key ∈ ["module_name", "cdylib_name", "package_name"],
        memberOrNull members key = .null ∨ IsName (memberOrNull members key))
      (maps : ∀ key ∈ ["external_packages", "rename"],
        IsMap absent IsName (memberOrNull members key)) :
      IsSection absent (.obj members)

inductive IsDocument (absent : Json → Prop) : Json → Prop where
  | obj {members : List (String × Json)}
      (format : memberOrNull members "format" = .str "ubind-config")
      (version : EqualsZero (memberOrNull members "version"))
      (keys : ∀ m ∈ members, m.1 ∈ ["format", "version", "bindings"])
      (bindings : IsMap absent (IsSection absent) (memberOrNull members "bindings")) :
      IsDocument absent (.obj members)

/-- A value that is no map and is not null either, and yet counts as empty. -/
inductive Stray : Json → Prop where
  | zero {j : Json} (h : EqualsZero j) : Stray j
  | text : Stray (.str "")
  | list : Stray (.arr [])

/-- What the reader takes for a map that is left out. -/
def LeftOut (j : Json) : Prop := j = .null ∨ Stray j

theorem isName_str_iff {s : String} : IsName (.str s) ↔ s ≠ "" :=
  ⟨fun | .str h => h, .str⟩

theorem isZero_iff {j : Json} : isZero j = true ↔ EqualsZero j := by
  constructor
  · intro h
    cases j with
    | bool b =>
      obtain rfl : b = false := by simpa [isZero] using h
      exact .false
    | int n =>
      obtain rfl : n = 0 := by simpa [isZero] using h
      exact .int
    | float x =>
      cases x with
      | finite negative mantissa exponent =>
        obtain rfl : mantissa = 0 := by simpa [isZero, Decimal.Binary64.isZero] using h
        exact .float negative exponent
      | _ => cases h
    | _ => cases h
  · rintro (_ | _ | _) <;> rfl

theorem isBlank_iff {j : Json} : isBlank j = true ↔ LeftOut j ∨ j = .obj [] := by
  constructor
  · intro h
    cases j with
    | null => exact .inl (.inl rfl)
    | bool b => exact .inl (.inr (.zero (isZero_iff.1 h)))
    | int n => exact .inl (.inr (.zero (isZero_iff.1 h)))
    | float x => exact .inl (.inr (.zero (isZero_iff.1 h)))
    | str s =>
      obtain rfl : s = "" := by simpa [isBlank] using h
      exact .inl (.inr .text)
    | arr elements =>
      obtain rfl : elements = [] := by simpa [isBlank] using h
      exact .inl (.inr .list)
    | obj members =>
      obtain rfl : members = [] := by simpa [isBlank] using h
      exact .inr rfl
  · rintro ((rfl | (h | _ | _)) | rfl)
    · rfl
    · cases h <;> rfl
    · rfl
    · rfl
    · rfl

theorem not_leftOut_obj (members : List (String × Json)) : ¬ LeftOut (.obj members) := by
  rintro (h | (h | _ | _))
  · cases h
  · cases h

def text? : Json → Option String
  | .str s => some s
  | _ => none

/-- The entries of an object; other values have none. -/
def entriesOf : Json → List (String × Json)
  | .obj entries => entries
  | _ => []

/-- What is under a key of an object, or null. -/
def field (j : Json) (key : String) : Json := memberOrNull (entriesOf j) key

/-- A map to texts, of entries with one key the last one. -/
def textsOf (j : Json) : Table String String :=
  Table.ofList ((entriesOf j).map fun entry => (entry.1, (text? entry.2).getD ""))

def sectionOf (language : String) (j : Json) : Section where
  language := language
  moduleName := text? (field j "module_name")
  cdylibName := text? (field j "cdylib_name")
  packageName := text? (field j "package_name")
  externalPackages := textsOf (field j "external_packages")
  renames := textsOf (field j "rename")

/-- The sections of a document, by language. -/
def sectionsOf (j : Json) : Table String Section :=
  Table.ofList ((entriesOf (field j "bindings")).map fun entry =>
    (entry.1, sectionOf entry.1 entry.2))

theorem entriesOf_of_leftOut {j : Json} (h : LeftOut j) : entriesOf j = [] := by
  rcases h with rfl | (h | _ | _)
  · rfl
  · cases h <;> rfl
  · rfl
  · rfl

/-- What is asked of the values of a map is true of all its entries. -/
theorem IsMap.forall_entries {value : Json → Prop} {j : Json} (h : IsMap LeftOut value j) :
    ∀ entry ∈ entriesOf j, value entry.2 := by
  cases h with
  | absent h => simp [entriesOf_of_leftOut h]
  | obj h => exact h

/-- No key is unknown exactly if every key is among the known ones. -/
theorem unknownAmong_eq_nil_iff {known : List String} {members : List (String × Json)} :
    unknownAmong known members = [] ↔ ∀ m ∈ members, m.1 ∈ known := by
  rw [unknownAmong, Order.sortTexts, ← List.length_eq_zero_iff,
    (Order.perm_sortBy _ _).length_eq, List.length_eq_zero_iff]
  simp [List.filter_eq_nil_iff]

/-- Values that are read one by one, when a value is read exactly if it is of a kind. -/
theorem mapM_eq_ok_map_iff {α : Type} {f : String × Json → Except Fault (String × α)}
    {kind : Json → Prop} {g : String × Json → String × α}
    (hf : ∀ entry a, f entry = .ok a ↔ kind entry.2 ∧ a = g entry)
    {entries : List (String × Json)} {read : List (String × α)} :
    entries.mapM f = .ok read ↔ (∀ entry ∈ entries, kind entry.2) ∧ read = entries.map g := by
  rw [mapM_eq_ok]
  simp only [hf]
  constructor
  · intro h
    refine ⟨fun entry hentry => ?_, ?_⟩
    · obtain ⟨-, -, hkind, -⟩ := exists_right h hentry
      exact hkind
    · simpa using (map_eq_of_related h (f := g) (g := id) fun _ _ he => he.2.symm).symm
  · rintro ⟨h, rfl⟩
    rw [List.forall₂_map_right_iff, List.forall₂_same]
    exact fun entry hentry => ⟨h entry hentry, rfl⟩

/-- An optional name is read if it is null or a name. -/
theorem readText_eq_ok {members : List (String × Json)} {place key : String}
    {o : Option String} :
    readText members place key = .ok o ↔
      (memberOrNull members key = .null ∨ IsName (memberOrNull members key)) ∧
        o = text? (memberOrNull members key) := by
  unfold readText
  cases memberOrNull members key with
  | null => simp [text?, eq_comm]
  | str s => by_cases hs : s = "" <;> simp [hs, isName_str_iff, text?, eq_comm]
  | _ =>
    simp only [reduceCtorEq, false_or, false_iff, not_and]
    rintro ⟨⟩

theorem readEntry_eq_ok {place : String} {entry : String × Json} {read : String × String} :
    readEntry place entry = .ok read ↔
      IsName entry.2 ∧ read = (entry.1, (text? entry.2).getD "") := by
  obtain ⟨key, j⟩ := entry
  unfold readEntry
  cases j with
  | str s => by_cases hs : s = "" <;> simp [hs, isName_str_iff, text?, eq_comm]
  | _ =>
    simp only [reduceCtorEq, false_iff, not_and]
    rintro ⟨⟩

theorem isMap_obj_iff {value : Json → Prop} {entries : List (String × Json)} :
    IsMap LeftOut value (.obj entries) ↔ ∀ entry ∈ entries, value entry.2 :=
  ⟨IsMap.forall_entries, .obj⟩

theorem not_isMap {value : Json → Prop} {j : Json} (hblank : isBlank j = false)
    (hobj : ∀ entries, j ≠ .obj entries) : ¬ IsMap LeftOut value j := by
  intro h
  cases h with
  | absent h => simp [isBlank_iff.2 (.inl h)] at hblank
  | obj => exact hobj _ rfl

theorem isMap_of_isBlank {value : Json → Prop} {j : Json} (h : isBlank j = true) :
    IsMap LeftOut value j := by
  rcases isBlank_iff.1 h with h | rfl
  · exact .absent h
  · exact .obj (by simp)

theorem entriesOf_of_isBlank {j : Json} (h : isBlank j = true) : entriesOf j = [] := by
  rcases isBlank_iff.1 h with h | rfl
  · exact entriesOf_of_leftOut h
  · rfl

/-- A map of names is read exactly if it is one, as the table of its entries. -/
theorem readMap_eq_ok {members : List (String × Json)} {place key : String}
    {t : Table String String} :
    readMap members place key = .ok t ↔
      IsMap LeftOut IsName (memberOrNull members key) ∧ t = textsOf (memberOrNull members key) := by
  unfold readMap
  simp only
  split
  · rename_i hblank
    simp only [isMap_of_isBlank hblank, textsOf, entriesOf_of_isBlank hblank, true_and,
      Except.ok.injEq, eq_comm]
    rfl
  · rename_i hblank
    rw [Bool.not_eq_true] at hblank
    split
    · rename_i entries hentries
      rw [hentries, map_eq_ok, isMap_obj_iff]
      simp only [mapM_eq_ok_map_iff fun _ _ => readEntry_eq_ok]
      constructor
      · rintro ⟨read, ⟨hnames, rfl⟩, rfl⟩
        exact ⟨hnames, rfl⟩
      · rintro ⟨hnames, rfl⟩
        exact ⟨_, ⟨hnames, rfl⟩, rfl⟩
    · rename_i hobj
      simp [not_isMap hblank hobj]

theorem isSection_obj_iff {absent : Json → Prop} {members : List (String × Json)} :
    IsSection absent (.obj members) ↔ (∀ m ∈ members, m.1 ∈ sectionKeys) ∧
      (∀ key ∈ ["module_name", "cdylib_name", "package_name"],
        memberOrNull members key = .null ∨ IsName (memberOrNull members key)) ∧
      ∀ key ∈ ["external_packages", "rename"],
        IsMap absent IsName (memberOrNull members key) := by
  constructor
  · rintro ⟨hkeys, htexts, hmaps⟩
    exact ⟨hkeys, htexts, hmaps⟩
  · rintro ⟨hkeys, htexts, hmaps⟩
    exact .obj hkeys htexts hmaps

/-- A section is read exactly if it has the format of one. -/
theorem readSection_eq_ok {language : String} {j : Json} {s : Section} :
    readSection language j = .ok s ↔ IsSection LeftOut j ∧ s = sectionOf language j := by
  cases j with
  | obj members =>
    rw [isSection_obj_iff, ← unknownAmong_eq_nil_iff]
    by_cases hkeys : unknownAmong sectionKeys members = []
    · simp only [readSection, hkeys, ne_eq, not_true_eq_false, if_false, bind_eq_ok,
        readText_eq_ok, readMap_eq_ok, List.forall_mem_cons, List.not_mem_nil]
      constructor
      · rintro ⟨_, ⟨hmodule, rfl⟩, _, ⟨hcdylib, rfl⟩, _, ⟨hpackage, rfl⟩, _, ⟨hpackages, rfl⟩, _,
          ⟨hrenames, rfl⟩, h⟩
        exact ⟨⟨trivial, ⟨hmodule, hcdylib, hpackage, by simp⟩, hpackages, hrenames, by simp⟩,
          (Except.ok.inj h).symm⟩
      · rintro ⟨⟨-, ⟨hmodule, hcdylib, hpackage, -⟩, hpackages, hrenames, -⟩, rfl⟩
        exact ⟨_, ⟨hmodule, rfl⟩, _, ⟨hcdylib, rfl⟩, _, ⟨hpackage, rfl⟩, _, ⟨hpackages, rfl⟩, _,
          ⟨hrenames, rfl⟩, rfl⟩
    · simp only [readSection, hkeys, ne_eq, not_false_eq_true, if_true, false_and, iff_false]
      rintro ⟨⟩
  | _ =>
    simp only [readSection, reduceCtorEq, false_iff, not_and]
    rintro ⟨⟩

/-- The sections of a document are read exactly if each has the format of one. -/
theorem readSections_eq_ok {j : Json} {t : Table String Section} :
    readSections j = .ok t ↔ IsMap LeftOut (IsSection LeftOut) j ∧
      t = Table.ofList ((entriesOf j).map fun entry => (entry.1, sectionOf entry.1 entry.2)) := by
  unfold readSections
  split
  · rename_i hblank
    simp only [isMap_of_isBlank hblank, entriesOf_of_isBlank hblank, true_and, Except.ok.injEq,
      eq_comm]
    rfl
  · rename_i hblank
    rw [Bool.not_eq_true] at hblank
    split
    · rename_i entries
      have hentry : ∀ (entry : String × Json) (read : String × Section),
          (do let s ← readSection entry.1 entry.2; pure (entry.1, s)) = Except.ok read ↔
            IsSection LeftOut entry.2 ∧ read = (entry.1, sectionOf entry.1 entry.2) := by
        intro entry read
        simp only [bind_eq_ok, readSection_eq_ok, pure_eq, Except.ok.injEq]
        constructor
        · rintro ⟨_, ⟨hsection, rfl⟩, rfl⟩
          exact ⟨hsection, rfl⟩
        · rintro ⟨hsection, rfl⟩
          exact ⟨_, ⟨hsection, rfl⟩, rfl⟩
      rw [bind_eq_ok, isMap_obj_iff]
      simp only [mapM_eq_ok_map_iff hentry]
      constructor
      · rintro ⟨read, ⟨hsections, rfl⟩, h⟩
        exact ⟨hsections, (Except.ok.inj h).symm⟩
      · rintro ⟨hsections, rfl⟩
        exact ⟨_, ⟨hsections, rfl⟩, rfl⟩
    · rename_i hobj
      simp [not_isMap hblank hobj]

theorem isDocument_obj_iff {absent : Json → Prop} {members : List (String × Json)} :
    IsDocument absent (.obj members) ↔
      memberOrNull members "format" = .str "ubind-config" ∧
        EqualsZero (memberOrNull members "version") ∧
        (∀ m ∈ members, m.1 ∈ topLevelKeys) ∧
        IsMap absent (IsSection absent) (memberOrNull members "bindings") := by
  constructor
  · rintro ⟨hformat, hversion, hkeys, hbindings⟩
    exact ⟨hformat, hversion, hkeys, hbindings⟩
  · rintro ⟨hformat, hversion, hkeys, hbindings⟩
    exact .obj hformat hversion hkeys hbindings

theorem isFormat_iff {j : Json} : isFormat j = true ↔ j = .str "ubind-config" := by
  cases j <;> simp [isFormat]

/-- What is read has the format, and is what the document says. -/
theorem ofJson_eq_ok {languages : List String} {j : Json} {c : Config} :
    ofJson languages j = .ok c ↔
      IsDocument LeftOut j ∧ c = withLanguages ⟨sectionsOf j⟩ languages := by
  cases j with
  | obj members =>
    rw [isDocument_obj_iff, ← unknownAmong_eq_nil_iff, ← isFormat_iff, ← isZero_iff]
    by_cases hsupported : isFormat (memberOrNull members "format") = true ∧
      isZero (memberOrNull members "version") = true
    · by_cases hkeys : unknownAmong topLevelKeys members = []
      · simp only [ofJson, hsupported, hkeys, Bool.not_true, Bool.or_self, Bool.false_eq_true,
          if_false, ne_eq, not_true_eq_false, bind_eq_ok, readSections_eq_ok, true_and]
        constructor
        · rintro ⟨_, ⟨hbindings, rfl⟩, h⟩
          exact ⟨hbindings, (Except.ok.inj h).symm⟩
        · rintro ⟨hbindings, rfl⟩
          exact ⟨_, ⟨hbindings, rfl⟩, rfl⟩
      · simp only [ofJson, hsupported, hkeys, Bool.not_true, Bool.or_self, Bool.false_eq_true,
          if_false, ne_eq, not_false_eq_true, if_true, false_and, and_false, iff_false]
        rintro ⟨⟩
    · have hneither : (!isFormat (memberOrNull members "format") ||
          !isZero (memberOrNull members "version")) = true := by
        grind
      simp only [ofJson, hneither, if_true]
      constructor
      · rintro ⟨⟩
      · rintro ⟨⟨hformat, hversion, -⟩, -⟩
        exact absurd ⟨hformat, hversion⟩ hsupported
  | _ =>
    simp only [ofJson, reduceCtorEq, false_iff, not_and]
    rintro ⟨⟩

/-- The places of a document at which there may be a map. -/
def mapsOf (j : Json) : List Json :=
  field j "bindings" :: (entriesOf (field j "bindings")).flatMap fun entry =>
    [field entry.2 "external_packages", field entry.2 "rename"]

theorem not_stray_obj (members : List (String × Json)) : ¬ Stray (.obj members) :=
  fun h => not_leftOut_obj members (.inr h)

theorem not_stray_null : ¬ Stray .null := by
  rintro (h | _ | _)
  cases h

/-- A map is as documented when it is no stray value and all that is in it is as documented. -/
theorem isMap_null_iff {value value' clean : Json → Prop}
    (hvalue : ∀ j, value j ↔ value' j ∧ clean j) {j : Json} :
    IsMap (· = .null) value j ↔
      IsMap LeftOut value' j ∧ ¬ Stray j ∧ ∀ entry ∈ entriesOf j, clean entry.2 := by
  constructor
  · intro h
    cases h with
    | absent h =>
      subst h
      exact ⟨.absent (.inl rfl), not_stray_null, by simp [entriesOf]⟩
    | obj h =>
      exact ⟨.obj fun entry hentry => ((hvalue entry.2).1 (h entry hentry)).1, not_stray_obj _,
        fun entry hentry => ((hvalue entry.2).1 (h entry hentry)).2⟩
  · rintro ⟨h, hstray, hclean⟩
    cases h with
    | absent h => exact .absent (h.resolve_right hstray)
    | obj h =>
      exact .obj fun entry hentry => (hvalue entry.2).2 ⟨h entry hentry, hclean entry hentry⟩

/-- A section has the format as it is documented if nothing stands in for an absent map. -/
theorem isSection_null_iff {j : Json} :
    IsSection (· = .null) j ↔ IsSection LeftOut j ∧
      ∀ map ∈ [field j "external_packages", field j "rename"], ¬ Stray map := by
  cases j with
  | obj members =>
    have hmap : ∀ {j : Json}, IsMap (· = .null) IsName j ↔ IsMap LeftOut IsName j ∧ ¬ Stray j := by
      intro j
      have hname : ∀ j, IsName j ↔ IsName j ∧ (fun _ => True) j := by simp
      simpa using isMap_null_iff hname
    simp only [isSection_obj_iff, List.forall_mem_cons, List.not_mem_nil, hmap, field, entriesOf]
    tauto
  | _ =>
    constructor
    · rintro ⟨⟩
    · rintro ⟨⟨⟩, -⟩

/-- A document that is read has the documented format when no stray value is in the place of a
map. -/
theorem isDocument_null_iff {j : Json} :
    IsDocument (· = .null) j ↔ IsDocument LeftOut j ∧ ∀ map ∈ mapsOf j, ¬ Stray map := by
  cases j with
  | obj members =>
    rw [isDocument_obj_iff, isDocument_obj_iff, isMap_null_iff fun _ => isSection_null_iff]
    simp only [mapsOf, List.forall_mem_cons, List.forall_mem_flatMap, field, entriesOf]
    tauto
  | _ =>
    constructor
    · rintro ⟨⟩
    · rintro ⟨⟨⟩, -⟩

/-- A document is read if it has the format, where any value that counts as empty may stand for a
map that is left out, and is refused otherwise. So it has the documented format, where only null may
stand for such a map, exactly when it is read and nothing else stands for one. -/
theorem read_iff_format (languages : List String) (j : Json) :
    ((∃ c, ofJson languages j = .ok c) ↔ IsDocument LeftOut j) ∧
      (¬ IsDocument LeftOut j → ∃ fault, ofJson languages j = .error fault) ∧
      (IsDocument (· = .null) j ↔
        (∃ c, ofJson languages j = .ok c) ∧ ∀ map ∈ mapsOf j, ¬ Stray map) := by
  have hread : (∃ c, ofJson languages j = .ok c) ↔ IsDocument LeftOut j := by
    simp only [ofJson_eq_ok, exists_and_left, exists_eq, and_true]
  refine ⟨hread, fun h => ?_, by rw [hread, isDocument_null_iff]⟩
  cases hj : ofJson languages j with
  | ok c => exact absurd (hread.1 ⟨c, hj⟩) h
  | error fault => exact ⟨fault, rfl⟩

/-- An empty list of sections is read as no sections. -/
theorem bindings_list_read :
    ofJson [] (.obj [("format", .str "ubind-config"), ("version", .int 0), ("bindings", .arr [])]) =
        .ok {} ∧
      ¬ IsDocument (· = .null)
        (.obj [("format", .str "ubind-config"), ("version", .int 0), ("bindings", .arr [])]) := by
  refine ⟨rfl, fun h => ?_⟩
  have hclean := (isDocument_null_iff.1 h).2 (.arr []) (List.mem_cons_self)
  exact hclean .list

end Bindery.Config
