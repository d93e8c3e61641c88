import Bindery.Proofs.Stub.Layout
/-!
# Names in a stub

Which names the statements of a stub look up when it is executed, and which they bind. A stub is
ready to be executed if each statement finds what it looks up among the names that were bound
before it. Annotations are not evaluated, and neither are the bodies of callables.
-/
namespace Bindery.Stub

/-- What a statement looks up: a name, or a member of an enumeration. -/
inductive Target where
  | name (name : String)
  | member (enumeration name : String)
  deriving DecidableEq

/-- The names that are looked up when an annotation is evaluated. -/
def Annotation.names : Annotation → List String
  | primitive .timestamp | primitive .duration => ["datetime"]
  | primitive kind => [primitiveText kind]
  | named name => [name]
  | optional inner | sequence inner => "typing" :: inner.names
  | map key value => "typing" :: (key.names ++ value.names)

/-- A member of an enumeration is looked up. A plain value is taken for a literal, whatever is
written there. -/
def Value.reads : Value → List Target
  | variant enumeration name => [.name enumeration, .member enumeration (ident name)]
  | missing | flag _ | text _ | bytes _ | plain _ => []

def Attribute.reads (a : Attribute) : List Target := a.default.toList.flatMap Value.reads

def Callable.reads (c : Callable) : List Target :=
  if c.receiver = .ownClass then [.name "classmethod"] else []

/-- The names that every stub imports. -/
def standardNames : List String := ["annotations", "datetime", "enum", "typing", "dataclass"]

namespace Statement

def reads : Statement → List Target
  | typeAlias _ value => value.names.map .name
  | nameClass _ _ _ => [.name "enum"]
  | dataClass _ _ base _ attributes =>
    .name "dataclass" :: base.toList.map .name ++ attributes.flatMap Attribute.reads
  | baseClass isError _ _ => if isError then [.name "Exception"] else []
  | attach owner _ target => [.name owner, .name target]
  | memberClass isProtocol _ _ members =>
    (if isProtocol then [.name "typing"] else []) ++ members.flatMap Callable.reads
  | function c => c.reads
  | comment _ | moduleDocs _ | standardImports | packageImports _ | constants _ _ => []

def binds : Statement → List Target
  | standardImports => standardNames.map .name
  | packageImports packages => (packages.flatMap Prod.snd).map .name
  | constants _ _ => ["NAMESPACE", "CDYLIB_NAME"].map .name
  | typeAlias name _ => [.name name]
  | nameClass name _ members => .name name :: members.map fun m => .member name (ident m)
  | dataClass _ name _ _ _ | baseClass _ name _ | memberClass _ name _ _ => [.name name]
  | attach owner member _ => [.member owner (ident member)]
  | function c => [.name (ident c.name)]
  | comment _ | moduleDocs _ => []

end Statement

/-- Every statement finds what it looks up among what is bound at first and what the statements in
front of it bind. -/
def Ready (bound : List Target) : List Statement → Prop
  | [] => True
  | statement :: rest =>
    (∀ t ∈ statement.reads, t ∈ bound) ∧ Ready (bound ++ statement.binds) rest

instance decidableReady (bound : List Target) :
    (statements : List Statement) → Decidable (Ready bound statements)
  | [] => isTrue trivial
  | statement :: rest =>
    have := decidableReady (bound ++ statement.binds) rest
    inferInstanceAs (Decidable
      ((∀ t ∈ statement.reads, t ∈ bound) ∧ Ready (bound ++ statement.binds) rest))

variable {bound : List Target}

/-- Statements are ready behind others if they are ready with what those bind. -/
theorem ready_append {front back : List Statement} :
    Ready bound (front ++ back) ↔
      Ready bound front ∧ Ready (bound ++ front.flatMap Statement.binds) back := by
  induction front generalizing bound with
  | nil => simp [Ready]
  | cons statement front ih => simp [Ready, ih, and_assoc]

/-- Statements that look up only what is bound at first. -/
theorem ready_of_reads {statements : List Statement}
    (h : ∀ statement ∈ statements, ∀ t ∈ statement.reads, t ∈ bound) : Ready bound statements := by
  induction statements generalizing bound with
  | nil => trivial
  | cons statement rest ih =>
    refine ⟨h statement List.mem_cons_self, ih fun other hother t ht => ?_⟩
    exact List.mem_append_left _ (h other (List.mem_cons_of_mem _ hother) t ht)

/-- A run of blocks is ready if each block is ready behind the ones in front of it. -/
theorem ready_flatMap {α : Type} {xs : List α} {block : α → List Statement} :
    Ready bound (xs.flatMap block) ↔ ∀ before x after, xs = before ++ x :: after →
      Ready (bound ++ (before.flatMap block).flatMap Statement.binds) (block x) := by
  induction xs generalizing bound with
  | nil => simp [Ready]
  | cons first rest ih =>
    rw [List.flatMap_cons, ready_append, ih]
    constructor
    · rintro ⟨hfirst, hrest⟩ before x after h
      cases before with
      | nil =>
        obtain ⟨rfl, -⟩ := List.cons.inj h
        simpa using hfirst
      | cons y before =>
        rw [List.cons_append, List.cons.injEq] at h
        obtain ⟨rfl, hsplit⟩ := h
        simpa using hrest before x after hsplit
    · intro h
      refine ⟨by simpa using h [] first rest rfl, fun before x after heq => ?_⟩
      simpa using h (first :: before) x after (by rw [heq, List.cons_append])

/-- Statements of one kind are ready if each finds what it looks up before it. -/
theorem ready_map {α : Type} {xs : List α} {f : α → Statement} :
    Ready bound (xs.map f) ↔ ∀ before x after, xs = before ++ x :: after →
      ∀ t ∈ (f x).reads, t ∈ bound ∨ ∃ y ∈ before, t ∈ (f y).binds := by
  rw [List.map_eq_flatMap, ready_flatMap]
  simp [Ready]

end Bindery.Stub
