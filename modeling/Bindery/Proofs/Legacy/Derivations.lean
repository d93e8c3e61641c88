import Bindery.Proofs.Legacy.Grammar
/-!
# Derivations

What the trees of a pattern are, by the shape of the pattern, and which tokens they may start with.
-/
namespace Bindery.Legacy

def Lexeme.keyword (k : Keyword) : Lexeme := ⟨.keyword k, k.spelling.toList⟩

def Lexeme.mark (p : Punctuation) : Lexeme := ⟨.mark p, [p.char]⟩

abbrev Tree.keyword (k : Keyword) : Tree := .leaf (.keyword k)

abbrev Tree.mark (p : Punctuation) : Tree := .leaf (.mark p)

/-- Trees with a comma in front of each. -/
def behindCommas (ts : List Tree) : List Tree := ts.flatMap fun t => [.mark .comma, t]

/-- Trees with commas between them. -/
def separated : List Tree → List Tree
  | [] => []
  | t :: rest => t :: behindCommas rest

@[simp] theorem Tree.leaves_leaf (l : Lexeme) : (Tree.leaf l).leaves = [l] := by rw [leaves]

@[simp] theorem Tree.leaves_node (r : Rule) (ts : List Tree) :
    (Tree.node r ts).leaves = leavesOf ts := by rw [leaves]

@[simp] theorem leavesOf_nil : leavesOf [] = [] := by rw [leavesOf]

@[simp] theorem leavesOf_cons (t : Tree) (ts : List Tree) :
    leavesOf (t :: ts) = t.leaves ++ leavesOf ts := by rw [leavesOf]

@[simp] theorem leavesOf_append (ts us : List Tree) :
    leavesOf (ts ++ us) = leavesOf ts ++ leavesOf us := by
  induction ts with
  | nil => simp
  | cons t ts ih => simp [ih]

/-- Every token of a derivation tree is spelled right. -/
theorem Derives.spelled {p : Pattern} {ts : List Tree} (h : Derives p ts) :
    ∀ l ∈ leavesOf ts, Spelled l.kind l.text := by
  induction h with
  | token h => simpa using h
  | rule _ ih => simpa using ih
  | empty => simp
  | done => simp
  | both _ _ ihp ihq =>
    simp only [leavesOf_append, List.mem_append]
    rintro l (hl | hl)
    · exact ihp l hl
    · exact ihq l hl
  | left _ ih => exact ih
  | right _ ih => exact ih
  | more _ _ ihp ihq =>
    simp only [leavesOf_append, List.mem_append]
    rintro l (hl | hl)
    · exact ihp l hl
    · exact ihq l hl

section
variable {p q : Pattern} {x : Symbol} {t : Tree} {ts us : List Tree}

theorem derives_token {kind : TokenKind} :
    Derives (.token kind) ts ↔ ∃ text, Spelled kind text ∧ [.leaf ⟨kind, text⟩] = ts := by
  constructor
  · rintro ⟨h⟩
    exact ⟨_, h, rfl⟩
  · rintro ⟨text, h, rfl⟩
    exact .token h

@[simp] theorem derives_name :
    Derives (.token .name) ts ↔ ∃ text, Spelled .name text ∧ [.leaf ⟨.name, text⟩] = ts :=
  derives_token

@[simp] theorem derives_text :
    Derives (.token .text) ts ↔ ∃ text, Spelled .text text ∧ [.leaf ⟨.text, text⟩] = ts :=
  derives_token

@[simp] theorem derives_number :
    Derives (.token .number) ts ↔ ∃ text, Spelled .number text ∧ [.leaf ⟨.number, text⟩] = ts :=
  derives_token

@[simp] theorem derives_keyword {k : Keyword} : Derives (.keyword k) ts ↔ [.keyword k] = ts := by
  simp [derives_token, Spelled, Tree.keyword, Lexeme.keyword]

@[simp] theorem derives_mark {p : Punctuation} : Derives (.mark p) ts ↔ [.mark p] = ts := by
  simp [derives_token, Spelled, Tree.mark, Lexeme.mark]

/-- A symbol stands for one tree. -/
theorem Derives.eq_singleton (h : Derives (.symbol x) ts) : ∃ t, ts = [t] := by
  cases h <;> exact ⟨_, rfl⟩

@[simp] theorem derives_rule {r : Rule} : Derives (.rule r) ts ↔ ∃ t, t.From r ∧ [t] = ts := by
  constructor
  · intro h
    obtain ⟨t, rfl⟩ := h.eq_singleton
    exact ⟨t, h, rfl⟩
  · rintro ⟨t, h, rfl⟩
    exact h

theorem Tree.from_iff (r : Rule) :
    t.From r ↔ ∃ ts, Derives (production r) ts ∧ .node r ts = t := by
  constructor
  · rintro ⟨⟩
    rename_i ts h
    exact ⟨ts, h, rfl⟩
  · rintro ⟨ts, h, rfl⟩
    exact .rule h

@[simp] theorem derives_empty : Derives .empty ts ↔ [] = ts := by
  constructor
  · rintro ⟨⟩
    rfl
  · rintro rfl
    exact .empty

@[simp] theorem derives_both :
    Derives (.both p q) ts ↔ ∃ us, Derives p us ∧ ∃ vs, Derives q vs ∧ us ++ vs = ts := by
  constructor
  · rintro ⟨⟩
    rename_i us vs hp hq
    exact ⟨us, hp, vs, hq, rfl⟩
  · rintro ⟨us, hp, vs, hq, rfl⟩
    exact .both hp hq

@[simp] theorem derives_either : Derives (.either p q) ts ↔ Derives p ts ∨ Derives q ts := by
  constructor
  · intro h
    cases h with
    | left h => exact .inl h
    | right h => exact .inr h
  · rintro (h | h)
    · exact .left h
    · exact .right h

/-- An optional part is missing or derived. -/
theorem derives_maybe : Derives (.maybe p) ts ↔ [] = ts ∨ Derives p ts := by
  rw [Pattern.maybe, derives_either, derives_empty]

/-- A repeated part is derived time after time. -/
theorem derives_many : Derives (.many (.symbol x)) ts ↔ ∀ t ∈ ts, Derives (.symbol x) [t] := by
  constructor
  · generalize hp : Pattern.many (.symbol x) = p
    intro h
    induction h with cases hp
    | done => simp
    | more h _ _ ih =>
      obtain ⟨t, rfl⟩ := h.eq_singleton
      simpa using ⟨h, ih rfl⟩
  · intro h
    induction ts with
    | nil => exact .done
    | cons t ts ih =>
      rw [List.forall_mem_cons] at h
      exact .more h.1 (ih h.2)

/-- What stands behind the first of some symbols with commas between them. -/
theorem derives_behindCommas :
    Derives (.many (.both (.mark .comma) (.symbol x))) ts ↔
      ∃ us, (∀ u ∈ us, Derives (.symbol x) [u]) ∧ behindCommas us = ts := by
  constructor
  · generalize hp : Pattern.many (.both (.mark .comma) (.symbol x)) = p
    intro h
    induction h with cases hp
    | done => exact ⟨[], by simp, rfl⟩
    | more h _ _ ih =>
      obtain ⟨us, hus, rfl⟩ := ih rfl
      obtain ⟨comma, hcomma, vs, hu, rfl⟩ := derives_both.1 h
      obtain rfl := derives_mark.1 hcomma
      obtain ⟨u, rfl⟩ := hu.eq_singleton
      exact ⟨u :: us, by simpa using ⟨hu, hus⟩, rfl⟩
  · rintro ⟨us, hus, rfl⟩
    induction us with
    | nil => exact .done
    | cons u us ih =>
      rw [List.forall_mem_cons] at hus
      exact .more (.both (derives_mark.2 rfl) hus.1) (ih hus.2)

theorem derives_commas :
    Derives (.commas x) ts ↔
      ∃ t us, (∀ u ∈ t :: us, Derives (.symbol x) [u]) ∧ separated (t :: us) = ts := by
  rw [Pattern.commas, derives_both]
  constructor
  · rintro ⟨ts, ht, vs, hvs, rfl⟩
    obtain ⟨t, rfl⟩ := ht.eq_singleton
    obtain ⟨us, hus, rfl⟩ := derives_behindCommas.1 hvs
    exact ⟨t, us, by simpa using ⟨ht, hus⟩, rfl⟩
  · rintro ⟨t, us, hus, rfl⟩
    rw [List.forall_mem_cons] at hus
    exact ⟨[t], hus.1, _, derives_behindCommas.2 ⟨us, hus.2, rfl⟩, rfl⟩

end

/-- Whether a pattern may stand for nothing. -/
def Pattern.nullable : Pattern → Bool
  | empty => true
  | symbol x => x == .rule .start
  | both p q => p.nullable && q.nullable
  | either p q => p.nullable || q.nullable
  | many _ => true

/-- The tokens that a rule may start with. -/
def Rule.first : Rule → List TokenKind
  | start | definition =>
    [.mark .openBracket, .keyword .namespaceWord, .keyword .dictionary, .keyword .enum,
      .keyword .interface, .keyword .callback, .keyword .typedef]
  | namespaceDef => [.mark .openBracket, .keyword .namespaceWord]
  | dictionaryDef => [.mark .openBracket, .keyword .dictionary]
  | enumDef => [.mark .openBracket, .keyword .enum]
  | enumValues => [.text]
  | interfaceDef => [.mark .openBracket, .keyword .interface]
  | callbackDef => [.mark .openBracket, .keyword .callback]
  | typedefDef => [.mark .openBracket, .keyword .typedef]
  | typedefTarget => [.keyword .externWord, .keyword .sequence, .keyword .record, .name]
  | interfaceMember =>
    [.mark .openBracket, .keyword .constructor, .keyword .void, .keyword .sequence,
      .keyword .record, .name]
  | constructorDecl => [.mark .openBracket, .keyword .constructor]
  | funcDecl =>
    [.mark .openBracket, .keyword .void, .keyword .sequence, .keyword .record, .name]
  | variantDecl | attr => [.name]
  | returnType => [.keyword .void, .keyword .sequence, .keyword .record, .name]
  | params | param | typeRef | optionalType | baseType =>
    [.keyword .sequence, .keyword .record, .name]
  | fieldDecl => [.mark .openBracket, .keyword .sequence, .keyword .record, .name]
  | fieldDefault => [.mark .equal]
  | defaultValue => [.text, .number, .name]
  | attributes => [.mark .openBracket]
  | attrValue => [.name, .text]
  | sequenceType => [.keyword .sequence]
  | mapType => [.keyword .record]
  | namedType => [.name]

/-- The tokens that a pattern may start with. -/
def Pattern.first : Pattern → List TokenKind
  | empty => []
  | symbol (.token kind) => [kind]
  | symbol (.rule r) => r.first
  | both p q => p.first ++ if p.nullable then q.first else []
  | either p q => p.first ++ q.first
  | many p => p.first

/-- A production starts only with what its rule can start with, and that of a file alone can be
empty. -/
theorem Rule.first_production (r : Rule) :
    (∀ kind ∈ (production r).first, kind ∈ r.first) ∧
      ((production r).nullable = true → r = .start) := by
  cases r <;> decide

/-- The kind of the first token, or of the end. -/
def frontKind : List Lexeme → TokenKind
  | [] => .finish
  | l :: _ => l.kind

@[simp] theorem frontKind_cons (l : Lexeme) (ls : List Lexeme) : frontKind (l :: ls) = l.kind := rfl

/-- Trees start with a token that their pattern may start with, unless they have none. -/
theorem Derives.front {p : Pattern} {ts : List Tree} (h : Derives p ts) (rest : List Lexeme) :
    frontKind (leavesOf ts ++ rest) ∈ p.first ∨ leavesOf ts = [] ∧ p.nullable = true := by
  induction h generalizing rest with
  | token => exact .inl (by simp [Pattern.first])
  | @rule r ts _ ih =>
    obtain ⟨hfirst, hnull⟩ := r.first_production
    obtain h | ⟨h, hempty⟩ := ih rest
    · exact .inl (by simpa [Pattern.first] using hfirst _ h)
    · exact .inr ⟨by simpa using h, by simp [Pattern.nullable, hnull hempty]⟩
  | empty | done => exact .inr ⟨rfl, rfl⟩
  | @both p q ts us _ _ ihp ihq =>
    obtain h | ⟨hts, hp⟩ := ihp (leavesOf us ++ rest)
    · exact .inl (by simp [Pattern.first, h])
    obtain h | ⟨hus, hq⟩ := ihq rest
    · exact .inl (by simp [Pattern.first, hts, hp, h])
    · exact .inr (by simp [Pattern.nullable, hts, hus, hp, hq])
  | left _ ih =>
    obtain h | ⟨hts, hp⟩ := ih rest
    · exact .inl (by simp [Pattern.first, h])
    · exact .inr (by simp [Pattern.nullable, hts, hp])
  | right _ ih =>
    obtain h | ⟨hts, hp⟩ := ih rest
    · exact .inl (by simp [Pattern.first, h])
    · exact .inr (by simp [Pattern.nullable, hts, hp])
  | @more p ts us _ _ ihp ihm =>
    obtain h | ⟨hts, -⟩ := ihp (leavesOf us ++ rest)
    · exact .inl (by simpa [Pattern.first] using h)
    obtain h | ⟨hus, -⟩ := ihm rest
    · exact .inl (by simpa [Pattern.first, hts] using h)
    · exact .inr (by simp [Pattern.nullable, hts, hus])

/-- The first token of a derivation tree is one its rule can start with. -/
theorem Tree.From.front {r : Rule} {t : Tree} (h : t.From r) (hr : r ≠ .start)
    (rest : List Lexeme) : frontKind (t.leaves ++ rest) ∈ r.first := by
  obtain h | ⟨-, h⟩ := Derives.front h rest
  · simpa [Pattern.first] using h
  · simp [Pattern.nullable, hr] at h

theorem Tree.From.leaves_ne_nil {r : Rule} {t : Tree} (h : t.From r) (hr : r ≠ .start) :
    t.leaves ≠ [] := by
  intro hnil
  have hfinish := h.front hr []
  rw [hnil] at hfinish
  cases r <;> revert hfinish <;> decide

theorem length_le_leavesOf_behindCommas (ts : List Tree) :
    ts.length ≤ (leavesOf (behindCommas ts)).length := by
  induction ts with
  | nil => simp
  | cons t ts ih =>
    have hcons : behindCommas (t :: ts) = .mark .comma :: t :: behindCommas ts := rfl
    simp only [hcons, leavesOf_cons, List.length_cons, List.length_append, Tree.leaves_leaf]
    omega

/-- There are no more trees of a rule than tokens in them. -/
theorem length_le_leavesOf {r : Rule} (hr : r ≠ .start) {ts : List Tree}
    (h : ∀ t ∈ ts, t.From r) : ts.length ≤ (leavesOf ts).length := by
  induction ts with
  | nil => simp
  | cons t ts ih =>
    obtain ⟨ht, hts⟩ := List.forall_mem_cons.1 h
    have hpos := List.length_pos_iff.2 (ht.leaves_ne_nil hr)
    have := ih hts
    simp only [List.length_cons, leavesOf_cons, List.length_append]
    omega

end Bindery.Legacy
