import Bindery.Proofs.Text.Quoted
import Bindery.Ty.Term
/-!
# Terms of types can be told apart

A term says where it ends, so that a type can be split off the front of a text in one way only.
-/
namespace Bindery

namespace Term

variable {α β : Type}

/-- A quoted text says where it ends. -/
theorem prefixFree_text : PrefixFree text := by
  intro s t rest rest' h
  obtain ⟨hchars, hrest⟩ := Text.prefixFree_quotedChars _ _ _ _ h
  exact ⟨String.toList_inj.1 hchars, hrest⟩

theorem prefixFree_flag : PrefixFree flag := by
  intro a b rest rest' h
  cases a <;> cases b <;> simp_all [flag]

/-- Texts that do not begin like the word for nothing or like the end of a tuple. -/
def StartsTerm (f : α → List Char) : Prop :=
  ∀ a, ∃ c more, f a = c :: more ∧ c ≠ 'N' ∧ c ≠ ')' ∧ c ≠ ','

theorem startsTerm_text : StartsTerm text := by
  intro s
  refine ⟨_, _, rfl, ?_⟩
  rcases Text.isQuote_quoteFor s.toList with h | h <;> rw [h] <;> decide

/-- A term that may be missing says where it ends. -/
theorem prefixFree_orNone {f : α → List Char} (hf : PrefixFree f) (hstart : StartsTerm f) :
    PrefixFree (orNone f) := by
  intro a b rest rest' h
  cases a with
  | none =>
    cases b with
    | none => simpa [orNone] using h
    | some b =>
      obtain ⟨c, more, hc, hN, -⟩ := hstart b
      simp [orNone, hc, hN.symm] at h
  | some a =>
    cases b with
    | none =>
      obtain ⟨c, more, hc, hN, -⟩ := hstart a
      simp [orNone, hc, hN] at h
    | some b =>
      obtain ⟨rfl, hrest⟩ := hf a b rest rest' h
      exact ⟨rfl, hrest⟩

/-- The arguments behind the first one. -/
def moreArguments : List (String × List Char) → List Char
  | [] => []
  | argument :: rest => ',' :: ' ' :: arguments (argument :: rest)

theorem arguments_cons (key : String) (value : List Char) (rest : List (String × List Char)) :
    arguments ((key, value) :: rest) = key.toList ++ '=' :: value ++ moreArguments rest := by
  cases rest <;> simp [arguments, moreArguments]

section

variable {key : String} {value value' : List Char} {fields fields' : List (String × List Char)}
  {rest rest' : List Char} {p : Prop}

/-- Two lists of arguments that begin with one key, whose values can be told apart as `p` says. -/
theorem arguments_inj (hvalue : ∀ more more', value ++ more = value' ++ more' → p ∧ more = more')
    (h : arguments ((key, value) :: fields) ++ rest =
      arguments ((key, value') :: fields') ++ rest') :
    p ∧ moreArguments fields ++ rest = moreArguments fields' ++ rest' := by
  simp only [arguments_cons, List.append_assoc, List.cons_append] at h
  exact hvalue _ _ (List.cons.inj (List.append_cancel_left h)).2

/-- Arguments can be split off one by one. -/
theorem moreArguments_inj
    (hvalue : ∀ more more', value ++ more = value' ++ more' → p ∧ more = more')
    (h : moreArguments ((key, value) :: fields) ++ rest =
      moreArguments ((key, value') :: fields') ++ rest') :
    p ∧ moreArguments fields ++ rest = moreArguments fields' ++ rest' := by
  simp only [moreArguments, List.cons_append, List.cons.injEq, true_and] at h
  exact arguments_inj hvalue h

theorem arguments_end (h : moreArguments [] ++ ')' :: rest = moreArguments [] ++ ')' :: rest') :
    rest = rest' :=
  (List.cons.inj h).2

/-- A word is split off in front of a character that it does not hold. -/
theorem word_inj {stop : Char} {s t : List Char} (hs : stop ∉ s) (ht : stop ∉ t)
    (h : s ++ stop :: rest = t ++ stop :: rest') : s = t ∧ rest = rest' := by
  have hword : ∀ {word : List Char} (more : List Char), stop ∉ word →
      (word ++ stop :: more).takeWhile (· ≠ stop) = word := by
    intro word more hw
    rw [List.takeWhile_append_of_pos fun c hmem => by
      simpa using fun e : c = stop => hw (e ▸ hmem)]
    simp
  have hlist : s = t := by
    rw [← hword rest hs, h, hword rest' ht]
  rw [hlist] at h
  exact ⟨hlist, (List.cons.inj (List.append_cancel_left h)).2⟩

/-- A call says which constructor it is of. -/
theorem call_inj {constructor constructor' : String} (hc : '(' ∉ constructor.toList)
    (hc' : '(' ∉ constructor'.toList)
    (h : call constructor fields ++ rest = call constructor' fields' ++ rest') :
    constructor = constructor' ∧
      arguments fields ++ ')' :: rest = arguments fields' ++ ')' :: rest' := by
  simp only [call, List.append_assoc, List.cons_append, List.nil_append] at h
  exact (word_inj hc hc' h).imp_left String.toList_inj.1

/-- A constant says where its name ends. -/
theorem constant_inj {enumeration name name' spelling spelling' : String}
    (hn : ':' ∉ name.toList) (hn' : ':' ∉ name'.toList)
    (h : constant enumeration name spelling ++ rest =
      constant enumeration name' spelling' ++ rest') : name = name' ∧ rest = rest' := by
  simp only [constant, List.append_assoc, List.cons_append, List.cons.injEq, true_and] at h
  obtain ⟨hname, hmore⟩ := word_inj hn hn' (List.cons.inj (List.append_cancel_left h)).2
  obtain ⟨-, hrest⟩ := prefixFree_text _ _ _ _ (List.cons.inj hmore).2
  exact ⟨String.toList_inj.1 hname, (List.cons.inj hrest).2⟩

end

/-- What stands in a tuple behind its first entry. -/
def behindFirst : List (List Char) → List Char
  | [] => [',', ')']
  | entries => moreEntries entries ++ [')']

theorem tuple_cons (entry : List Char) (rest : List (List Char)) :
    tuple (entry :: rest) = '(' :: entry ++ behindFirst rest := by
  cases rest <;> simp [tuple, behindFirst]

theorem tuple_nil : tuple [] = ['(', ')'] := rfl

theorem moreEntries_inj {f : α → List Char} (hf : PrefixFree f) (xs ys : List α)
    {rest rest' : List Char}
    (h : moreEntries (xs.map f) ++ ')' :: rest = moreEntries (ys.map f) ++ ')' :: rest') :
    xs = ys ∧ rest = rest' := by
  induction xs generalizing ys with
  | nil =>
    cases ys with
    | nil => simpa [moreEntries] using h
    | cons y ys => simp [moreEntries] at h
  | cons x xs ih =>
    cases ys with
    | nil => simp [moreEntries] at h
    | cons y ys =>
      simp only [List.map_cons, moreEntries, List.cons_append, List.append_assoc,
        List.cons.injEq, true_and] at h
      obtain ⟨rfl, hmore⟩ := hf x y _ _ h
      obtain ⟨rfl, hrest⟩ := ih ys hmore
      exact ⟨rfl, hrest⟩

/-- A tuple of terms says where it ends. -/
theorem prefixFree_tuple {f : α → List Char} (hf : PrefixFree f) (hstart : StartsTerm f) :
    PrefixFree fun xs : List α => tuple (xs.map f) := by
  intro xs ys rest rest' h
  cases xs with
  | nil =>
    cases ys with
    | nil => simpa [tuple_nil] using h
    | cons y ys =>
      obtain ⟨c, more, hc, -, hclose, -⟩ := hstart y
      simp [tuple_cons, tuple_nil, hc, hclose.symm] at h
  | cons x xs =>
    cases ys with
    | nil =>
      obtain ⟨c, more, hc, -, hclose, -⟩ := hstart x
      simp [tuple_cons, tuple_nil, hc, hclose] at h
    | cons y ys =>
      simp only [List.map_cons, tuple_cons, List.cons_append, List.append_assoc,
        List.cons.injEq, true_and] at h
      obtain ⟨rfl, hmore⟩ := hf x y _ _ h
      cases xs with
      | nil =>
        cases ys with
        | nil => simpa [behindFirst] using hmore
        | cons z ys => simp [behindFirst, moreEntries] at hmore
      | cons z xs =>
        cases ys with
        | nil => simp [behindFirst, moreEntries] at hmore
        | cons w ys =>
          simp only [List.map_cons, behindFirst, List.append_assoc, List.cons_append,
            List.nil_append] at hmore
          obtain ⟨hall, hrest⟩ := moreEntries_inj hf (z :: xs) (w :: ys) hmore
          rw [hall]
          exact ⟨rfl, hrest⟩

end Term

open Term

theorem Primitive.constant_injective : Function.Injective Primitive.constant := by
  intro a b h
  have hfind : ∀ p : Primitive, all.find? (·.constant = p.constant) = some p := by
    intro p
    cases p <;> decide
  have hab := hfind a
  rw [h, hfind b] at hab
  exact (Option.some.inj hab).symm

theorem prefixFree_primitive :
    PrefixFree fun kind : Primitive =>
      Term.constant "PrimitiveKind" kind.constant kind.spelling := by
  intro a b rest rest' h
  have hcolon : ∀ p : Primitive, ':' ∉ p.constant.toList := by
    intro p
    cases p <;> decide
  obtain ⟨hname, hrest⟩ := constant_inj (hcolon a) (hcolon b) h
  exact ⟨Primitive.constant_injective hname, hrest⟩

theorem prefixFree_externalKind :
    PrefixFree fun kind : ExternalKind =>
      Term.constant "ExternalKind" kind.constant kind.spelling := by
  intro a b rest rest' h
  have hcolon : ∀ k : ExternalKind, ':' ∉ k.constant.toList := by
    intro k
    cases k <;> decide
  obtain ⟨hname, hrest⟩ := constant_inj (hcolon a) (hcolon b) h
  refine ⟨?_, hrest⟩
  cases a <;> cases b <;> first | rfl | exact absurd hname (by decide)

namespace Ty

/-- The name of the constructor of a type in its term. -/
def constructorName : Ty → String
  | primitive _ => "PrimitiveType"
  | object .. => "ObjectType"
  | record .. => "RecordType"
  | enumeration .. => "EnumType"
  | callback .. => "CallbackInterfaceType"
  | custom .. => "CustomType"
  | optional _ => "OptionalType"
  | sequence _ => "SequenceType"
  | map .. => "MapType"
  | external _ => "ExternalType"

/-- The arguments of the term of a type. -/
def termArguments : Ty → List (String × List Char)
  | primitive kind => [("kind", Term.constant "PrimitiveKind" kind.constant kind.spelling)]
  | object path name | record path name | enumeration path name | callback path name =>
    [("module_path", text path), ("name", text name)]
  | custom path name builtin =>
    [("module_path", text path), ("name", text name), ("builtin", builtin.term)]
  | optional inner | sequence inner => [("inner", inner.term)]
  | map key value => [("key", key.term), ("value", value.term)]
  | external target => [
    ("namespace", text target.namespaceName), ("module_path", text target.modulePath),
    ("name", text target.name),
    ("kind", Term.constant "ExternalKind" target.kind.constant target.kind.spelling),
    ("tagged", flag target.tagged), ("contains_object_references", flag target.holdsObjects)]

theorem term_eq (t : Ty) : t.term = call t.constructorName t.termArguments := by
  cases t <;> rfl

theorem not_mem_constructorName (t : Ty) : '(' ∉ t.constructorName.toList := by
  cases t <;> simp [constructorName]

theorem startsTerm_term : StartsTerm term := by
  intro t
  cases t <;> exact ⟨_, _, rfl, by decide⟩

/-- A call says which constructor it is of and where its arguments start. -/
theorem call_term_inj {a b : Ty} {rest rest' : List Char} (h : a.term ++ rest = b.term ++ rest') :
    a.constructorName = b.constructorName ∧
      arguments a.termArguments ++ ')' :: rest = arguments b.termArguments ++ ')' :: rest' := by
  rw [term_eq, term_eq b] at h
  exact call_inj a.not_mem_constructorName b.not_mem_constructorName h

/-- Two names as the only arguments. -/
theorem names_inj {path path' name name' : String} {rest rest' : List Char}
    (h : arguments [("module_path", text path), ("name", text name)] ++ ')' :: rest =
      arguments [("module_path", text path'), ("name", text name')] ++ ')' :: rest') :
    path = path' ∧ name = name' ∧ rest = rest' := by
  obtain ⟨hpath, h₁⟩ := arguments_inj (prefixFree_text _ _) h
  obtain ⟨hname, h₂⟩ := moreArguments_inj (prefixFree_text _ _) h₁
  exact ⟨hpath, hname, arguments_end h₂⟩

/-- The term of a reference says where it ends. -/
theorem prefixFree_external {a b : External} {rest rest' : List Char}
    (h : (external a).term ++ rest = (external b).term ++ rest') : a = b ∧ rest = rest' := by
  obtain ⟨-, h⟩ := call_term_inj h
  obtain ⟨hspace, h₁⟩ := arguments_inj (prefixFree_text _ _) h
  obtain ⟨hpath, h₂⟩ := moreArguments_inj (prefixFree_text _ _) h₁
  obtain ⟨hname, h₃⟩ := moreArguments_inj (prefixFree_text _ _) h₂
  obtain ⟨hkind, h₄⟩ := moreArguments_inj (prefixFree_externalKind _ _) h₃
  obtain ⟨htagged, h₅⟩ := moreArguments_inj (prefixFree_flag _ _) h₄
  obtain ⟨hholds, h₆⟩ := moreArguments_inj (prefixFree_flag _ _) h₅
  refine ⟨?_, arguments_end h₆⟩
  obtain ⟨_, _, _, _, _, _⟩ := a
  obtain ⟨_, _, _, _, _, _⟩ := b
  simp_all

/-- By induction on the first type; the second one has the same constructor. -/
theorem prefixFree_term : PrefixFree term := by
  intro a
  induction a with
  | primitive kind =>
    intro b rest rest' h
    obtain ⟨hname, h⟩ := call_term_inj h
    cases b <;> simp only [constructorName, String.reduceEq] at hname
    obtain ⟨hkind, h₁⟩ := arguments_inj (prefixFree_primitive _ _) h
    exact ⟨by rw [hkind], arguments_end h₁⟩
  | object path name =>
    intro b rest rest' h
    obtain ⟨hname, h⟩ := call_term_inj h
    cases b <;> simp only [constructorName, String.reduceEq] at hname
    obtain ⟨hpath, hname, hrest⟩ := names_inj h
    exact ⟨by rw [hpath, hname], hrest⟩
  | record path name =>
    intro b rest rest' h
    obtain ⟨hname, h⟩ := call_term_inj h
    cases b <;> simp only [constructorName, String.reduceEq] at hname
    obtain ⟨hpath, hname, hrest⟩ := names_inj h
    exact ⟨by rw [hpath, hname], hrest⟩
  | enumeration path name =>
    intro b rest rest' h
    obtain ⟨hname, h⟩ := call_term_inj h
    cases b <;> simp only [constructorName, String.reduceEq] at hname
    obtain ⟨hpath, hname, hrest⟩ := names_inj h
    exact ⟨by rw [hpath, hname], hrest⟩
  | callback path name =>
    intro b rest rest' h
    obtain ⟨hname, h⟩ := call_term_inj h
    cases b <;> simp only [constructorName, String.reduceEq] at hname
    obtain ⟨hpath, hname, hrest⟩ := names_inj h
    exact ⟨by rw [hpath, hname], hrest⟩
  | custom path name builtin ih =>
    intro b rest rest' h
    obtain ⟨hname, h⟩ := call_term_inj h
    cases b <;> simp only [constructorName, String.reduceEq] at hname
    obtain ⟨hpath, h₁⟩ := arguments_inj (prefixFree_text _ _) h
    obtain ⟨hname, h₂⟩ := moreArguments_inj (prefixFree_text _ _) h₁
    obtain ⟨hbuiltin, h₃⟩ := moreArguments_inj (ih _) h₂
    exact ⟨by rw [hpath, hname, hbuiltin], arguments_end h₃⟩
  | optional inner ih =>
    intro b rest rest' h
    obtain ⟨hname, h⟩ := call_term_inj h
    cases b <;> simp only [constructorName, String.reduceEq] at hname
    obtain ⟨hinner, h₁⟩ := arguments_inj (ih _) h
    exact ⟨by rw [hinner], arguments_end h₁⟩
  | sequence inner ih =>
    intro b rest rest' h
    obtain ⟨hname, h⟩ := call_term_inj h
    cases b <;> simp only [constructorName, String.reduceEq] at hname
    obtain ⟨hinner, h₁⟩ := arguments_inj (ih _) h
    exact ⟨by rw [hinner], arguments_end h₁⟩
  | map key value ihkey ihvalue =>
    intro b rest rest' h
    obtain ⟨hname, h⟩ := call_term_inj h
    cases b <;> simp only [constructorName, String.reduceEq] at hname
    obtain ⟨hkey, h₁⟩ := arguments_inj (ihkey _) h
    obtain ⟨hvalue, h₂⟩ := moreArguments_inj (ihvalue _) h₁
    exact ⟨by rw [hkey, hvalue], arguments_end h₂⟩
  | external target =>
    intro b rest rest' h
    have hname := (call_term_inj h).1
    cases b <;> simp only [constructorName, String.reduceEq] at hname
    obtain ⟨htarget, hrest⟩ := prefixFree_external h
    exact ⟨by rw [htarget], hrest⟩

end Ty
end Bindery
