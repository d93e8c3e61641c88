/-!
# Interface types

The types that occur in interface metadata. A declared type is named by the module path of its
declaration and its name; the leading segment of a module path is the library that owns the type.
-/
namespace Bindery

/-- The leading segment of a module path, up to the first `::`. -/
def leadingSegment : List Char → List Char
  | [] => []
  | ':' :: ':' :: _ => []
  | c :: rest => c :: leadingSegment rest

/-- The library that owns a module path. -/
def libraryOf (modulePath : String) : String := String.ofList (leadingSegment modulePath.toList)

theorem leadingSegment_cons {c : Char} {rest : List Char} (h : ¬ [':', ':'] <+: c :: rest) :
    leadingSegment (c :: rest) = c :: leadingSegment rest := by
  rw [leadingSegment]
  rintro tail rfl rfl
  exact h ⟨tail, rfl⟩

/-- A path without `::` has one segment. -/
theorem leadingSegment_eq_self {path : List Char} (h : ¬ [':', ':'] <:+: path) :
    leadingSegment path = path := by
  induction path with
  | nil => rfl
  | cons c rest ih =>
    rw [List.infix_cons_iff, not_or] at h
    rw [leadingSegment_cons h.1, ih h.2]

/-- The first `::` of a path ends its leading segment. -/
theorem leadingSegment_append {segment rest : List Char} (h : ¬ [':', ':'] <:+: segment ++ [':']) :
    leadingSegment (segment ++ ':' :: ':' :: rest) = segment := by
  induction segment with
  | nil => rfl
  | cons c segment ih =>
    rw [List.cons_append, List.infix_cons_iff, not_or] at h
    have hstart : ¬ [':', ':'] <+: c :: (segment ++ ':' :: ':' :: rest) := by
      cases segment <;> simpa using h.1
    rw [List.cons_append, leadingSegment_cons hstart, ih h.2]

theorem eq_append_of_infix {path : List Char} (h : [':', ':'] <:+: path) :
    ∃ segment rest, path = segment ++ ':' :: ':' :: rest ∧ ¬ [':', ':'] <:+: segment ++ [':'] := by
  induction path with
  | nil => simp at h
  | cons c path ih =>
    by_cases hstart : [':', ':'] <+: c :: path
    · obtain ⟨rest, hrest⟩ := hstart
      exact ⟨[], rest, hrest.symm, by decide⟩
    · obtain ⟨segment, rest, rfl, hfirst⟩ := ih ((List.infix_cons_iff.1 h).resolve_left hstart)
      refine ⟨c :: segment, rest, rfl, ?_⟩
      rw [List.cons_append, List.infix_cons_iff, not_or]
      refine ⟨fun hpair => hstart (hpair.trans ?_), hfirst⟩
      exact ⟨':' :: rest, by simp⟩

/-- The library of a path is the whole of it, or what stands before its first `::`. -/
theorem libraryOf_eq_iff {path library : String} :
    libraryOf path = library ↔
      path = library ∧ ¬ [':', ':'] <:+: path.toList ∨
      ∃ rest, path = library ++ "::" ++ rest ∧ ¬ [':', ':'] <:+: library.toList ++ [':'] := by
  constructor
  · rintro rfl
    by_cases h : [':', ':'] <:+: path.toList
    · obtain ⟨segment, rest, heq, hfirst⟩ := eq_append_of_infix h
      have hsegment : libraryOf path = String.ofList segment := by
        rw [libraryOf, heq, leadingSegment_append hfirst]
      refine .inr ⟨String.ofList rest, ?_, by rwa [hsegment, String.toList_ofList]⟩
      rw [hsegment]
      exact String.toList_injective (by simp [heq])
    · exact .inl ⟨by rw [libraryOf, leadingSegment_eq_self h, String.ofList_toList], h⟩
  · rintro (⟨rfl, h⟩ | ⟨rest, rfl, h⟩)
    · rw [libraryOf, leadingSegment_eq_self h, String.ofList_toList]
    · have hpath : (library ++ "::" ++ rest).toList =
          library.toList ++ ':' :: ':' :: rest.toList := by simp
      rw [libraryOf, hpath, leadingSegment_append h, String.ofList_toList]

/-- Builtin scalar and buffer types. -/
inductive Primitive where
  | u8 | i8 | u16 | i16 | u32 | i32 | u64 | i64 | f32 | f64
  | boolean | string | bytes | timestamp | duration
  deriving DecidableEq, Repr

namespace Primitive

def all : List Primitive :=
  [u8, i8, u16, i16, u32, i32, u64, i64, f32, f64, boolean, string, bytes, timestamp, duration]

def spelling : Primitive → String
  | u8 => "u8"
  | i8 => "i8"
  | u16 => "u16"
  | i16 => "i16"
  | u32 => "u32"
  | i32 => "i32"
  | u64 => "u64"
  | i64 => "i64"
  | f32 => "f32"
  | f64 => "f64"
  | boolean => "boolean"
  | string => "string"
  | bytes => "bytes"
  | timestamp => "timestamp"
  | duration => "duration"

def ofSpelling? (s : String) : Option Primitive := all.find? (·.spelling = s)

@[simp] theorem ofSpelling?_spelling (p : Primitive) : ofSpelling? p.spelling = some p := by
  cases p <;> decide

theorem eq_of_ofSpelling? {s : String} {p : Primitive} (h : ofSpelling? s = some p) :
    p.spelling = s := by
  simpa using List.find?_some h

end Primitive

/-- How a type of another library crosses the boundary. -/
inductive ExternalKind where
  | dataClass | interface
  deriving DecidableEq, Repr

namespace ExternalKind

def spelling : ExternalKind → String
  | dataClass => "DataClass"
  | interface => "Interface"

def ofSpelling? (s : String) : Option ExternalKind :=
  [dataClass, interface].find? (·.spelling = s)

@[simp] theorem ofSpelling?_spelling (k : ExternalKind) : ofSpelling? k.spelling = some k := by
  cases k <;> decide

end ExternalKind

/-- The key of a declared record or enumeration across all libraries. -/
structure Ident where
  modulePath : String
  name : String
  deriving DecidableEq, Repr, Inhabited

/-- A reference to a type that another library owns. The public namespace is empty while the
reference is unresolved. -/
structure External where
  namespaceName : String
  modulePath : String
  name : String
  kind : ExternalKind
  tagged : Bool := false
  holdsObjects : Bool := true
  deriving DecidableEq, Repr

def External.ident (e : External) : Ident := ⟨e.modulePath, e.name⟩

inductive Ty where
  | primitive (kind : Primitive)
  | object (modulePath name : String)
  | record (modulePath name : String)
  | enumeration (modulePath name : String)
  | callback (modulePath name : String)
  | custom (modulePath name : String) (builtin : Ty)
  | optional (inner : Ty)
  | sequence (inner : Ty)
  | map (key value : Ty)
  | external (target : External)
  deriving DecidableEq, Repr

namespace Ty

/-- Whether a type points at a declaration. -/
def isNamed : Ty → Bool
  | object .. | record .. | enumeration .. | callback .. | custom .. | external .. => true
  | primitive .. | optional .. | sequence .. | map .. => false

/-- A type followed by every type inside it, outermost first; the builtin of a custom type counts
as inside it. -/
def occurrences : Ty → List Ty
  | t@(optional inner) => t :: inner.occurrences
  | t@(sequence inner) => t :: inner.occurrences
  | t@(map key value) => t :: (key.occurrences ++ value.occurrences)
  | t@(custom _ _ builtin) => t :: builtin.occurrences
  | t => [t]

/-- The short form that messages and legacy files use. -/
def label : Ty → String
  | primitive kind => kind.spelling
  | optional inner => inner.label ++ "?"
  | sequence inner => "sequence<" ++ inner.label ++ ">"
  | map key value => "record<" ++ key.label ++ ", " ++ value.label ++ ">"
  | object path name | record path name | enumeration path name | callback path name
  | custom path name _ => path ++ "::" ++ name
  | external target => target.modulePath ++ "::" ++ target.name

theorem mem_occurrences_self (t : Ty) : t ∈ t.occurrences := by
  cases t <;> simp [occurrences]

end Ty
end Bindery
