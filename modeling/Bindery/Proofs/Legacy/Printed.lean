import Bindery.Proofs.Legacy.Soundness
/-!
# Parsing printed tokens

Tokens are written with a space between each two, and a parser stands in front of them: what it
reads next is the next token as long as the context knows it. On top of that, parsers for lists of
trees from a parser for one tree.
-/
namespace Bindery.Legacy

/-- What is behind the first of some printed tokens. -/
def printedBehind (ls : List Lexeme) : List Char := ls.flatMap fun l => ' ' :: l.text

theorem printed_cons (l : Lexeme) (ls : List Lexeme) :
    printed (l :: ls) = l.text ++ printedBehind ls := by
  induction ls generalizing l with
  | nil => simp [printed, printedBehind]
  | cons l' ls ih =>
    have hstep : printed (l :: l' :: ls) = l.text ++ ' ' :: printed (l' :: ls) := by
      simp [printed]
    rw [hstep, ih]
    rfl

theorem head_printedBehind (ls : List Lexeme) : ∀ c ∈ (printedBehind ls).head?, c = ' ' := by
  cases ls with
  | nil => simp [printedBehind]
  | cons l ls => simp [printedBehind]

/-- The first of some tokens, or the end. -/
def frontToken : List Lexeme → Lexeme
  | [] => ⟨.finish, []⟩
  | l :: _ => l

theorem frontToken_kind (ls : List Lexeme) : (frontToken ls).kind = frontKind ls := by
  cases ls <;> rfl

/-- The text from a state on is these tokens, printed. There are fewer of them than `fuel`. -/
structure Ahead (fuel : Nat) (s : State) (ls : List Lexeme) : Prop where
  look : s.look.bare = frontToken ls
  behind : s.behind.rest = printedBehind ls.tail
  plain : ∀ l ∈ ls, l.Plain
  enough : ls.length < fuel

theorem Ahead.kind {fuel : Nat} {s : State} {ls : List Lexeme} (h : Ahead fuel s ls) :
    s.look.kind = frontKind ls := by
  rw [← frontToken_kind, ← h.look]
  rfl

theorem Ahead.mono {fuel fuel' : Nat} {s : State} {ls : List Lexeme} (h : Ahead fuel s ls)
    (hle : fuel ≤ fuel') : Ahead fuel' s ls :=
  ⟨h.look, h.behind, h.plain, Nat.lt_of_lt_of_le h.enough hle⟩

namespace Parser

variable {ctx : Context} {c : Cursor} {last : Mark} {l : Lexeme} {ls : List Lexeme}

theorem skipBlanks_of_none (h : blank? c.rest = none) (fuel : Nat) : skipBlanks fuel c = c := by
  cases fuel with
  | zero => rfl
  | succ fuel => rw [skipBlanks, h]

/-- A printed token is read behind the blanks in front of it. -/
theorem read_of_skip (hl : l.Plain) (hknows : ctx.Knows l.kind)
    (hskip : (skipBlanks c.rest.length c).rest = l.text ++ printedBehind ls) :
    ∃ s, read ctx c last = .ok s ∧ s.look.bare = l ∧ s.behind.rest = printedBehind ls := by
  have htoken := token?_append hl hknows (head_printedBehind ls)
  obtain ⟨first, more, htext, -⟩ := hl.spelled.head
  rw [← hskip] at htoken
  rw [htext, List.cons_append] at hskip
  unfold read
  dsimp only
  split
  · rename_i hend
    rw [hend] at hskip
    cases hskip
  · rw [htoken]
    exact ⟨_, rfl, rfl, rfl⟩

/-- The tokens behind the one in front are read in a context that knows the first of them. -/
theorem read_printedBehind (hrest : c.rest = printedBehind ls) (hplain : ∀ l ∈ ls, l.Plain)
    (hknows : ctx.Knows (frontKind ls)) :
    ∃ s, read ctx c last = .ok s ∧ s.look.bare = frontToken ls ∧
      s.behind.rest = printedBehind ls.tail := by
  cases ls with
  | nil =>
    obtain ⟨rest, mark⟩ := c
    obtain rfl : rest = [] := hrest
    exact ⟨_, rfl, rfl, rfl⟩
  | cons l ls =>
    have hl := hplain l List.mem_cons_self
    have hrest' : c.rest = ' ' :: (l.text ++ printedBehind ls) := hrest
    refine read_of_skip hl hknows ?_
    rw [hrest', List.length_cons, skipBlanks, hrest']
    rw [show blank? (' ' :: (l.text ++ printedBehind ls)) =
      some ([' '], l.text ++ printedBehind ls) from rfl]
    simp only
    rw [skipBlanks_of_none (blank?_of_token hl.spelled _)]
    rfl

/-- From a state, a parser takes the tokens in front of `rest` and returns a good result. -/
def Succeeds {α : Type} (p : Parser α) (fuel : Nat) (s : State) (rest : List Lexeme)
    (good : α → Prop) : Prop :=
  ∃ a s', p s = .ok (a, s') ∧ good a ∧ Ahead fuel s' rest

section
variable {α β : Type} {fuel : Nat} {s : State} {rest rest' : List Lexeme} {good : α → Prop}

/-- Parsers that succeed one after the other succeed together. -/
theorem Succeeds.bind {p : Parser α} {f : α → Parser β} {good' : β → Prop}
    (h : Succeeds p fuel s rest good)
    (hf : ∀ a s', good a → Ahead fuel s' rest → Succeeds (f a) fuel s' rest' good') :
    Succeeds (p >>= f) fuel s rest' good' := by
  obtain ⟨a, s', hp, ha, ahead⟩ := h
  obtain ⟨b, s'', hb, hgood, ahead'⟩ := hf a s' ha ahead
  exact ⟨b, s'', bind_eq_ok.2 ⟨a, s', hp, hb⟩, hgood, ahead'⟩

theorem Succeeds.imp {p : Parser α} {good' : α → Prop} (h : Succeeds p fuel s rest good)
    (himp : ∀ a, good a → good' a) : Succeeds p fuel s rest good' := by
  obtain ⟨a, s', hp, ha, ahead⟩ := h
  exact ⟨a, s', hp, himp a ha, ahead⟩

theorem Succeeds.pure {a : α} (ahead : Ahead fuel s rest) (ha : good a) :
    Succeeds (pure a) fuel s rest good :=
  ⟨a, s, rfl, ha, ahead⟩

theorem Succeeds.look {f : Token → Parser α} (h : Succeeds (f s.look) fuel s rest good) :
    Succeeds (look >>= f) fuel s rest good :=
  h

theorem Succeeds.mono {p : Parser α} {fuel' : Nat} (h : Succeeds p fuel s rest good)
    (hle : fuel ≤ fuel') : Succeeds p fuel' s rest good := by
  obtain ⟨a, s', hp, ha, ahead⟩ := h
  exact ⟨a, s', hp, ha, ahead.mono hle⟩

/-- One token is taken, and there is one less. -/
theorem shift_one (ahead : Ahead (fuel + 1) s (l :: ls)) (next : ctx.Knows (frontKind ls)) :
    Succeeds (shift ctx) fuel s ls (fun t => t.bare = l) := by
  obtain ⟨hlook, hbehind, hplain, henough⟩ := ahead
  obtain ⟨hl, hls⟩ := List.forall_mem_cons.1 hplain
  obtain ⟨s', hread, hlook', hbehind'⟩ := read_printedBehind hbehind hls next
  exact ⟨s.look, s', shift_eq_ok.2 ⟨rfl, hread⟩, hlook, hlook', hbehind', hls,
    Nat.lt_of_succ_lt_succ henough⟩

/-- A printed token is read in any context that knows the one behind it. -/
theorem shift_succeeds (ahead : Ahead fuel s (l :: ls)) (next : ctx.Knows (frontKind ls)) :
    Succeeds (shift ctx) fuel s ls (fun t => t.bare = l) :=
  shift_one (ahead.mono (Nat.le_succ fuel)) next

theorem expect_succeeds {kind : TokenKind} (ahead : Ahead fuel s (l :: ls)) (hkind : l.kind = kind)
    (next : ctx.Knows (frontKind ls)) :
    Succeeds (expect kind ctx) fuel s ls (fun t => t.bare = l) := by
  refine .look ?_
  rw [if_pos (ahead.kind.trans hkind)]
  exact shift_succeeds ahead next

theorem expectMark_succeeds {p : Punctuation} (ahead : Ahead fuel s (.mark p :: ls))
    (next : ctx.Knows (frontKind ls)) :
    Succeeds (expectMark p ctx) fuel s ls (fun t => t.bare = .mark p) :=
  expect_succeeds ahead rfl next

theorem tree_toWord {t : Token} {text : List Char} (h : t.bare = ⟨.name, text⟩) :
    (toWord t).tree = .leaf ⟨.name, text⟩ := by
  have hlexeme : t.lexeme = text := congrArg Lexeme.text h
  simp [toWord, Word.tree, hlexeme]

theorem tree_toLiteral {t : Token} {text : List Char} (h : t.bare = ⟨.text, text⟩)
    (hspelled : Spelled .text text) : (toLiteral t).tree = .leaf ⟨.text, text⟩ := by
  have hlexeme : t.lexeme = text := congrArg Lexeme.text h
  obtain ⟨content, rfl, -⟩ := hspelled
  simp [toLiteral, Literal.tree, hlexeme]

/-- A printed name is read as it. -/
theorem name_succeeds {text : List Char} (ahead : Ahead fuel s (⟨.name, text⟩ :: ls))
    (next : ctx.Knows (frontKind ls)) :
    Succeeds (name ctx) fuel s ls (fun w => w.tree = .leaf ⟨.name, text⟩) :=
  (expect_succeeds ahead rfl next).bind fun _ _ ht ahead' => .pure ahead' (tree_toWord ht)

theorem knows_of_from {r : Rule} {t : Tree} (h : t.From r) (hr : r ≠ .start)
    (hfirst : ∀ kind ∈ r.first, ctx.Knows kind) : ctx.Knows (frontKind (t.leaves ++ rest)) :=
  hfirst _ (h.front hr rest)

/-- A context that knows what a pattern starts with, and what follows it, knows the first token of
both. -/
theorem knows_of_derives {p : Pattern} {ts : List Tree} (h : Derives p ts)
    (hfirst : ∀ kind ∈ p.first, ctx.Knows kind) (hrest : ctx.Knows (frontKind rest)) :
    ctx.Knows (frontKind (leavesOf ts ++ rest)) := by
  obtain h | ⟨h, -⟩ := h.front rest
  · exact hfirst _ h
  · rwa [h]

/-- A parser of one tree of a rule, whatever known token is behind it, gives a parser of any number
of them. -/
theorem upTo_succeeds {close : Punctuation} {one : Parser α} {tree : α → Tree} {r : Rule}
    (hone : ∀ {s t rest}, t.From r → Ahead fuel s (t.leaves ++ rest) →
      ctx.Knows (frontKind rest) → Succeeds one fuel s rest (fun a => tree a = t))
    (hr : r ≠ .start) (hfirst : ∀ kind ∈ r.first, ctx.Knows kind)
    (hclose : .mark close ∉ r.first) {n : Nat} {ts : List Tree} (hts : ∀ t ∈ ts, t.From r)
    (ahead : Ahead fuel s (leavesOf ts ++ rest)) (hrest : frontKind rest = .mark close)
    (hn : ts.length < n) :
    Succeeds (upTo close one n) fuel s rest (fun found => found.map tree = ts) := by
  induction n generalizing s ts with
  | zero => exact absurd hn (Nat.not_lt_zero _)
  | succ n ih =>
    refine .look ?_
    cases ts with
    | nil =>
      rw [if_pos (ahead.kind.trans hrest)]
      exact .pure ahead rfl
    | cons t ts =>
      obtain ⟨ht, hts⟩ := List.forall_mem_cons.1 hts
      rw [leavesOf_cons, List.append_assoc] at ahead
      have hkind : s.look.kind ≠ .mark close := fun h =>
        hclose (h ▸ ahead.kind ▸ ht.front hr _)
      have hnext : ctx.Knows (frontKind (leavesOf ts ++ rest)) := by
        refine knows_of_derives (derives_many.2 hts) hfirst ?_
        rw [hrest]
        exact trivial
      rw [if_neg hkind]
      refine (hone ht ahead hnext).bind fun a s₁ ha ahead₁ => ?_
      refine (ih hts ahead₁ (Nat.lt_of_succ_lt_succ hn)).bind fun found s₂ hfound ahead₂ => ?_
      exact .pure ahead₂ (by rw [List.map_cons, ha, hfound])

theorem front_behindCommas {close : TokenKind} (h : frontKind rest = close) (ts : List Tree) :
    frontKind (leavesOf (behindCommas ts) ++ rest) = .mark .comma ∨
      frontKind (leavesOf (behindCommas ts) ++ rest) = close := by
  cases ts with
  | nil => exact .inr h
  | cons => exact .inl rfl

theorem knows_behindCommas (h : ctx.Knows (frontKind rest)) (ts : List Tree) :
    ctx.Knows (frontKind (leavesOf (behindCommas ts) ++ rest)) := by
  cases ts with
  | nil => exact h
  | cons => exact trivial

/-- Behind each tree of a list with commas stands a comma or the token that closes the list. -/
theorem afterCommas_succeeds {one : Parser α} {tree : α → Tree} {x : Symbol} {close : TokenKind}
    (hone : ∀ {s t rest}, Derives (.symbol x) [t] → Ahead fuel s (t.leaves ++ rest) →
      frontKind rest = .mark .comma ∨ frontKind rest = close →
      Succeeds one fuel s rest (fun a => tree a = t))
    (hfirst : ∀ {t rest}, Derives (.symbol x) [t] → ctx.Knows (frontKind (t.leaves ++ rest)))
    (hclose : close ≠ .mark .comma) {n : Nat} {ts : List Tree}
    (hts : ∀ t ∈ ts, Derives (.symbol x) [t])
    (ahead : Ahead fuel s (leavesOf (behindCommas ts) ++ rest)) (hrest : frontKind rest = close)
    (hn : ts.length ≤ n) :
    Succeeds (afterCommas ctx one n) fuel s rest (fun found => found.map tree = ts) := by
  induction n generalizing s ts with
  | zero =>
    obtain rfl := List.length_eq_zero_iff.1 (Nat.le_zero.1 hn)
    exact .pure ahead rfl
  | succ n ih =>
    refine .look ?_
    cases ts with
    | nil =>
      have hkind : s.look.kind ≠ .mark .comma := by
        rw [ahead.kind]
        exact hrest ▸ hclose
      rw [if_neg hkind]
      exact .pure ahead rfl
    | cons t ts =>
      obtain ⟨ht, hts⟩ := List.forall_mem_cons.1 hts
      have ahead : Ahead fuel s
          (.mark .comma :: (t.leaves ++ (leavesOf (behindCommas ts) ++ rest))) := by
        simpa [behindCommas] using ahead
      have hnext := front_behindCommas hrest ts
      have hkind : s.look.kind = .mark .comma := ahead.kind
      rw [if_pos hkind]
      refine (shift_succeeds ahead (hfirst ht)).bind fun _ s₁ _ ahead₁ => ?_
      refine (hone ht ahead₁ hnext).bind fun a s₂ ha ahead₂ => ?_
      refine (ih hts ahead₂ (Nat.le_of_succ_le_succ hn)).bind fun found s₃ hfound ahead₃ => ?_
      exact .pure ahead₃ (by rw [List.map_cons, ha, hfound])

/-- Trees with commas between them, up to the token that closes the list. -/
theorem separated_succeeds {one : Parser α} {tree : α → Tree} {x : Symbol} {close : TokenKind}
    {f : α → List α → Parser β} {good : β → Prop}
    (hone : ∀ {s t rest}, Derives (.symbol x) [t] → Ahead fuel s (t.leaves ++ rest) →
      frontKind rest = .mark .comma ∨ frontKind rest = close →
      Succeeds one fuel s rest (fun a => tree a = t))
    (hfirst : ∀ {t rest}, Derives (.symbol x) [t] → ctx.Knows (frontKind (t.leaves ++ rest)))
    (hclose : close ≠ .mark .comma) {t : Tree} {ts : List Tree}
    (hts : ∀ u ∈ t :: ts, Derives (.symbol x) [u])
    (ahead : Ahead fuel s (leavesOf (separated (t :: ts)) ++ rest)) (hrest : frontKind rest = close)
    (hf : ∀ a found s', (a :: found).map tree = t :: ts → Ahead fuel s' rest →
      Succeeds (f a found) fuel s' rest' good) :
    Succeeds (one >>= fun a => afterCommas ctx one fuel >>= fun found => f a found) fuel s rest'
      good := by
  obtain ⟨ht, hts⟩ := List.forall_mem_cons.1 hts
  have ahead : Ahead fuel s (t.leaves ++ (leavesOf (behindCommas ts) ++ rest)) := by
    simpa [separated] using ahead
  refine (hone ht ahead (front_behindCommas hrest ts)).bind fun a s₁ ha ahead₁ => ?_
  have hn : ts.length ≤ fuel := by
    have hlt := ahead₁.enough
    have hle := length_le_leavesOf_behindCommas ts
    rw [List.length_append] at hlt
    omega
  refine (afterCommas_succeeds hone hfirst hclose hts ahead₁ hrest hn).bind
    fun found s₂ hfound ahead₂ => ?_
  exact hf a found s₂ (by rw [List.map_cons, ha, hfound]) ahead₂

end

end Parser
end Bindery.Legacy
