import Bindery.Legacy.Parser
import Bindery.Proofs.Legacy.Tokens
import Bindery.Proofs.Legacy.Trees
import Bindery.Proofs.Outcome
/-!
# What is parsed is derived

Whatever a parser returns, the tokens that it took are the leaves of the tree of its result, and
that tree is derived from its rule. One lemma per parser; each follows the text of its parser.
-/
namespace Bindery.Legacy

def Token.bare (t : Token) : Lexeme := ⟨t.kind, t.lexeme⟩

/-- The token in front is spelled right, or the text is at its end. -/
def State.Ready (s : State) : Prop :=
  Spelled s.look.kind s.look.lexeme ∨
    s.look.kind = .finish ∧ s.look.lexeme = [] ∧ s.behind.rest = []

/-- From one state to another, these tokens are taken. -/
inductive Taken : State → List Lexeme → State → Prop
  | nil {s : State} : Taken s [] s
  | cons {ctx : Context} {s s' s'' : State} {ls : List Lexeme} : s.look.kind ≠ .finish →
      Parser.read ctx s.behind s.look.mark = .ok s' → Taken s' ls s'' →
      Taken s (s.look.bare :: ls) s''

/-- Tokens that are taken one after the other are taken together. -/
theorem Taken.append {s s' s'' : State} {ls ms : List Lexeme} (h : Taken s ls s')
    (h' : Taken s' ms s'') : Taken s (ls ++ ms) s'' := by
  induction h with
  | nil => exact h'
  | cons hne hread _ ih => exact .cons hne hread (ih h')

/-- From one state to another, the leaves of trees are taken that a pattern derives. -/
structure Built (p : Pattern) (s : State) (ts : List Tree) (s' : State) : Prop where
  derives : Derives p ts
  taken : Taken s (leavesOf ts) s'
  ready : s'.Ready

namespace Built

variable {p q : Pattern} {s s' s'' : State} {ts us : List Tree}

/-- What is built for two patterns in a row is built for both. -/
theorem both (h : Built p s ts s') (h' : Built q s' us s'') :
    Built (.both p q) s (ts ++ us) s'' :=
  ⟨.both h.derives h'.derives, by simpa using h.taken.append h'.taken, h'.ready⟩

/-- What is built for a production is a tree of its rule. -/
theorem node (r : Rule) (h : Built (production r) s ts s') : Built (.rule r) s [.node r ts] s' :=
  ⟨.rule h.derives, by simpa using h.taken, h.ready⟩

theorem left (h : Built p s ts s') : Built (.either p q) s ts s' :=
  ⟨.left h.derives, h.taken, h.ready⟩

theorem right (h : Built q s ts s') : Built (.either p q) s ts s' :=
  ⟨.right h.derives, h.taken, h.ready⟩

theorem absent (hs : s.Ready) : Built (.maybe p) s [] s := ⟨.left .empty, .nil, hs⟩

theorem done (hs : s.Ready) : Built (.many p) s [] s := ⟨.done, .nil, hs⟩

theorem more (h : Built p s ts s') (h' : Built (.many p) s' us s'') :
    Built (.many p) s (ts ++ us) s'' :=
  ⟨.more h.derives h'.derives, by simpa using h.taken.append h'.taken, h'.ready⟩

end Built

namespace Parser

variable {α β : Type} {s s' : State}

theorem bind_apply (p : Parser α) (f : α → Parser β) (s : State) :
    (p >>= f) s = match p s with
      | .error fault => .error fault
      | .ok (a, s₁) => f a s₁ :=
  rfl

theorem bind_eq_ok {p : Parser α} {f : α → Parser β} {b : β} :
    (p >>= f) s = .ok (b, s') ↔ ∃ a s₁, p s = .ok (a, s₁) ∧ f a s₁ = .ok (b, s') := by
  rw [bind_apply]
  cases hp : p s with
  | error => simp
  | ok found =>
    obtain ⟨a, s₁⟩ := found
    exact ⟨fun h => ⟨a, s₁, rfl, h⟩, fun ⟨_, _, e, h⟩ => by cases e; exact h⟩

@[simp] theorem look_bind (f : Token → Parser β) : (look >>= f) s = f s.look s := rfl

/-- What a parser does that looks at the token in front is one of its cases. -/
theorem look_eq_ok {f : Token → Parser β} {b : β} :
    (look >>= f) s = .ok (b, s') ↔ ∃ p, f s.look = p ∧ p s = .ok (b, s') := by
  simp

@[simp] theorem pure_apply (a : α) : (pure a : Parser α) s = .ok (a, s) := rfl

@[simp] theorem refuse_apply : (refuse : Parser α) s = .error (.unexpected s.look) := rfl

/-- Behind the blanks that are passed stands the token that is read. -/
theorem ready_of_read {ctx : Context} {c : Cursor} {last : Mark} (h : read ctx c last = .ok s) :
    s.Ready ∧ Skips c.rest (s.look.lexeme ++ s.behind.rest) := by
  have hskip := skips_skipBlanks c.rest.length c
  unfold read at h
  dsimp only at h
  split at h
  · rename_i hend
    rw [hend] at hskip
    cases h
    exact ⟨.inr ⟨rfl, rfl, hend⟩, by simpa [hend] using hskip⟩
  · rename_i first more hmore
    split at h
    · cases h
    · rename_i kind lexeme rest htoken
      cases h
      obtain ⟨htext, hspelled⟩ := token?_eq_some htoken
      rw [htext] at hskip
      exact ⟨.inl hspelled, hskip⟩

/-- To shift is to take the token ahead and to read the next one. -/
theorem shift_eq_ok {ctx : Context} {t : Token} :
    shift ctx s = .ok (t, s') ↔ t = s.look ∧ read ctx s.behind s.look.mark = .ok s' := by
  unfold shift
  cases read ctx s.behind s.look.mark <;> simp [eq_comm]

theorem expect_eq_ok {kind : TokenKind} {ctx : Context} {t : Token} :
    expect kind ctx s = .ok (t, s') ↔ s.look.kind = kind ∧ shift ctx s = .ok (t, s') := by
  unfold expect
  rw [look_bind]
  split <;> simp [*]

/-- The token in front, taken. -/
theorem built_shift {ctx : Context} {kind : TokenKind} {t : Token} (hs : s.Ready)
    (hkind : s.look.kind = kind) (hne : kind ≠ .finish) (h : shift ctx s = .ok (t, s')) :
    t = s.look ∧ Built (.token kind) s [.leaf ⟨kind, t.lexeme⟩] s' := by
  obtain ⟨rfl, hread⟩ := shift_eq_ok.1 h
  subst hkind
  refine ⟨rfl, .token (hs.resolve_right fun hend => hne hend.1), ?_, (ready_of_read hread).1⟩
  exact .cons hne hread .nil

theorem built_keyword {ctx : Context} {k : Keyword} {t : Token} (hs : s.Ready)
    (hkind : s.look.kind = .keyword k) (h : shift ctx s = .ok (t, s')) :
    Built (.keyword k) s [.keyword k] s' := by
  have hbuilt := (built_shift hs hkind (by simp) h).2
  rwa [← derives_keyword.1 hbuilt.derives] at hbuilt

theorem built_mark {ctx : Context} {p : Punctuation} {t : Token} (hs : s.Ready)
    (hkind : s.look.kind = .mark p) (h : shift ctx s = .ok (t, s')) :
    Built (.mark p) s [.mark p] s' := by
  have hbuilt := (built_shift hs hkind (by simp) h).2
  rwa [← derives_mark.1 hbuilt.derives] at hbuilt

theorem built_expectMark {ctx : Context} {p : Punctuation} {t : Token} (hs : s.Ready)
    (h : expectMark p ctx s = .ok (t, s')) : Built (.mark p) s [.mark p] s' := by
  obtain ⟨hkind, h⟩ := expect_eq_ok.1 h
  exact built_mark hs hkind h

theorem built_word {ctx : Context} {t : Token} (hs : s.Ready) (hkind : s.look.kind = .name)
    (h : shift ctx s = .ok (t, s')) : Built (.token .name) s [(toWord t).tree] s' := by
  have hbuilt := (built_shift hs hkind (by simp) h).2
  simpa [toWord, Word.tree] using hbuilt

theorem built_literal {ctx : Context} {t : Token} (hs : s.Ready) (hkind : s.look.kind = .text)
    (h : shift ctx s = .ok (t, s')) : Built (.token .text) s [(toLiteral t).tree] s' := by
  have hbuilt := (built_shift hs hkind (by simp) h).2
  obtain ⟨content, hcontent, -⟩ : Spelled .text t.lexeme :=
    hbuilt.derives.spelled ⟨.text, t.lexeme⟩ (by simp)
  simpa [toLiteral, Literal.tree, hcontent] using hbuilt

theorem built_name {ctx : Context} {w : Word} (hs : s.Ready) (h : name ctx s = .ok (w, s')) :
    Built (.token .name) s [w.tree] s' := by
  obtain ⟨t, s₁, ht, h⟩ := bind_eq_ok.1 h
  obtain ⟨hkind, ht⟩ := expect_eq_ok.1 ht
  cases h
  exact built_word hs hkind ht

/-- Entries up to a closing mark are built one by one. -/
theorem built_upTo {close : Punctuation} {one : Parser α} {tree : α → Tree} {x : Symbol}
    (hone : ∀ {s a s'}, s.Ready → one s = .ok (a, s') → Built (.symbol x) s [tree a] s')
    {fuel : Nat} {found : List α} (hs : s.Ready) (h : upTo close one fuel s = .ok (found, s')) :
    Built (.many (.symbol x)) s (found.map tree) s' := by
  induction fuel generalizing s found with
  | zero => cases h
  | succ fuel ih =>
    rw [upTo, look_bind] at h
    split at h
    · cases h
      exact .done hs
    · obtain ⟨a, s₁, hfirst, h⟩ := bind_eq_ok.1 h
      obtain ⟨rest, s₂, hrest, h⟩ := bind_eq_ok.1 h
      cases h
      have built := hone hs hfirst
      exact built.more (ih built.ready hrest)

/-- Entries with commas in front of them are built one by one. -/
theorem built_afterCommas {ctx : Context} {one : Parser α} {tree : α → Tree} {x : Symbol}
    (hone : ∀ {s a s'}, s.Ready → one s = .ok (a, s') → Built (.symbol x) s [tree a] s')
    {fuel : Nat} {found : List α} (hs : s.Ready)
    (h : afterCommas ctx one fuel s = .ok (found, s')) :
    Built (.many (.both (.mark .comma) (.symbol x))) s (behindCommas (found.map tree)) s' := by
  induction fuel generalizing s found with
  | zero =>
    cases h
    exact .done hs
  | succ fuel ih =>
    rw [afterCommas, look_bind] at h
    split at h
    · rename_i hcomma
      obtain ⟨t, s₁, hshift, h⟩ := bind_eq_ok.1 h
      obtain ⟨a, s₂, hfirst, h⟩ := bind_eq_ok.1 h
      obtain ⟨rest, s₃, hrest, h⟩ := bind_eq_ok.1 h
      cases h
      have built₁ := built_mark hs hcomma hshift
      have built₂ := hone built₁.ready hfirst
      exact (built₁.both built₂).more (ih built₂.ready hrest)
    · cases h
      exact .done hs

theorem built_baseType {inner : Parser TypeExpr} {e : TypeExpr}
    (hinner : ∀ {s e s'}, s.Ready → inner s = .ok (e, s') → Built (.rule .typeRef) s [e.tree] s')
    (hs : s.Ready) (h : baseType inner s = .ok (e, s')) :
    Built (.rule .baseType) s [e.inner] s' := by
  obtain ⟨p, hp, h⟩ := look_eq_ok.1 h
  split at hp <;> subst hp
  · rename_i hkind
    obtain ⟨_, s₁, h₁, h⟩ := bind_eq_ok.1 h
    obtain ⟨_, s₂, h₂, h⟩ := bind_eq_ok.1 h
    obtain ⟨item, s₃, h₃, h⟩ := bind_eq_ok.1 h
    obtain ⟨_, s₄, h₄, h⟩ := bind_eq_ok.1 h
    cases h
    have b₁ := built_keyword hs hkind h₁
    have b₂ := built_expectMark b₁.ready h₂
    have b₃ := hinner b₂.ready h₃
    have b₄ := built_expectMark b₃.ready h₄
    exact ((b₁.both (b₂.both (b₃.both b₄))).node .sequenceType).left.node .baseType
  · rename_i hkind
    obtain ⟨_, s₁, h₁, h⟩ := bind_eq_ok.1 h
    obtain ⟨_, s₂, h₂, h⟩ := bind_eq_ok.1 h
    obtain ⟨key, s₃, h₃, h⟩ := bind_eq_ok.1 h
    obtain ⟨_, s₄, h₄, h⟩ := bind_eq_ok.1 h
    obtain ⟨value, s₅, h₅, h⟩ := bind_eq_ok.1 h
    obtain ⟨_, s₆, h₆, h⟩ := bind_eq_ok.1 h
    cases h
    have b₁ := built_keyword hs hkind h₁
    have b₂ := built_expectMark b₁.ready h₂
    have b₃ := hinner b₂.ready h₃
    have b₄ := built_expectMark b₃.ready h₄
    have b₅ := hinner b₄.ready h₅
    have b₆ := built_expectMark b₅.ready h₆
    exact ((b₁.both (b₂.both (b₃.both (b₄.both (b₅.both b₆))))).node .mapType).left.right.node
      .baseType
  · rename_i hkind
    obtain ⟨t, s₁, h₁, h⟩ := bind_eq_ok.1 h
    cases h
    exact ((built_word hs hkind h₁).node .namedType).right.right.node .baseType
  · cases h

theorem built_questionMark {base e : TypeExpr} {s₀ : State}
    (hbase : Built (.rule .baseType) s₀ [base.inner] s) (h : questionMark base s = .ok (e, s')) :
    Built (.rule .typeRef) s₀ [e.tree] s' := by
  rw [questionMark, look_bind] at h
  split at h
  · rename_i hkind
    obtain ⟨_, s₁, h₁, h⟩ := bind_eq_ok.1 h
    cases h
    exact ((hbase.both (built_mark hbase.ready hkind h₁)).node .optionalType).left.node .typeRef
  · cases h
    exact hbase.right.node .typeRef

/-- A type that is read is one the grammar derives. -/
theorem built_typeExpr {fuel : Nat} {e : TypeExpr} (hs : s.Ready)
    (h : typeExpr fuel s = .ok (e, s')) : Built (.rule .typeRef) s [e.tree] s' := by
  induction fuel generalizing s e s' with
  | zero => cases h
  | succ fuel ih =>
    obtain ⟨base, s₁, hbase, h⟩ := bind_eq_ok.1 h
    exact built_questionMark (built_baseType ih hs hbase) h

theorem built_param {fuel : Nat} {d : ParamDecl} (hs : s.Ready) (h : param fuel s = .ok (d, s')) :
    Built (.rule .param) s [d.tree] s' := by
  obtain ⟨type, s₁, h₁, h⟩ := bind_eq_ok.1 h
  obtain ⟨w, s₂, h₂, h⟩ := bind_eq_ok.1 h
  cases h
  have b₁ := built_typeExpr hs h₁
  exact (b₁.both (built_name b₁.ready h₂)).node .param

theorem built_paramList {fuel : Nat} {found : List ParamDecl} (hs : s.Ready)
    (h : paramList fuel s = .ok (found, s')) :
    Built (.maybe (.rule .params)) s (paramTrees found) s' := by
  rw [paramList, look_bind] at h
  split at h
  · cases h
    exact .absent hs
  · obtain ⟨first, s₁, h₁, h⟩ := bind_eq_ok.1 h
    obtain ⟨rest, s₂, h₂, h⟩ := bind_eq_ok.1 h
    cases h
    have b₁ := built_param hs h₁
    exact ((b₁.both (built_afterCommas built_param b₁.ready h₂)).node .params).right

theorem built_params {fuel : Nat} {after : Context} {found : List ParamDecl} (hs : s.Ready)
    (h : params fuel after s = .ok (found, s')) :
    Built (.chain [.mark .openParen, .maybe (.rule .params), .mark .closeParen, .mark .semicolon]) s
      (callTrees found) s' := by
  obtain ⟨_, s₁, h₁, h⟩ := bind_eq_ok.1 h
  obtain ⟨found, s₂, h₂, h⟩ := bind_eq_ok.1 h
  obtain ⟨_, s₃, h₃, h⟩ := bind_eq_ok.1 h
  obtain ⟨_, s₄, h₄, h⟩ := bind_eq_ok.1 h
  cases h
  have b₁ := built_expectMark hs h₁
  have b₂ := built_paramList b₁.ready h₂
  have b₃ := built_expectMark b₂.ready h₃
  have b₄ := built_expectMark b₃.ready h₄
  exact b₁.both (b₂.both (b₃.both b₄))

theorem built_attributeValue {value : AttributeValue} (hs : s.Ready)
    (h : attributeValue s = .ok (value, s')) : Built (.rule .attrValue) s [value.tree] s' := by
  obtain ⟨p, hp, h⟩ := look_eq_ok.1 h
  split at hp <;> subst hp
  · rename_i hkind
    obtain ⟨t, s₁, h₁, h⟩ := bind_eq_ok.1 h
    cases h
    exact (built_word hs hkind h₁).left.node .attrValue
  · rename_i hkind
    obtain ⟨t, s₁, h₁, h⟩ := bind_eq_ok.1 h
    cases h
    exact (built_literal hs hkind h₁).right.node .attrValue
  · cases h

theorem built_oneAttribute {a : Attribute} (hs : s.Ready) (h : oneAttribute s = .ok (a, s')) :
    Built (.rule .attr) s [a.tree] s' := by
  obtain ⟨w, s₁, h₁, h⟩ := bind_eq_ok.1 h
  have b₁ := built_name hs h₁
  rw [look_bind] at h
  split at h
  · rename_i hkind
    obtain ⟨_, s₂, h₂, h⟩ := bind_eq_ok.1 h
    obtain ⟨value, s₃, h₃, h⟩ := bind_eq_ok.1 h
    cases h
    have b₂ := built_mark b₁.ready hkind h₂
    have b₃ := built_attributeValue b₂.ready h₃
    exact (b₁.both (b₂.both b₃).right).node .attr
  · cases h
    exact (b₁.both (.absent b₁.ready)).node .attr

/-- Attributes that are read are ones the grammar derives. -/
theorem built_attributes {fuel : Nat} {found : List Attribute} (hs : s.Ready)
    (h : attributes fuel s = .ok (found, s')) :
    Built (.maybe (.rule .attributes)) s (attributeTrees found) s' := by
  rw [attributes, look_bind] at h
  split at h
  · rename_i hkind
    obtain ⟨_, s₁, h₁, h⟩ := bind_eq_ok.1 h
    obtain ⟨first, s₂, h₂, h⟩ := bind_eq_ok.1 h
    obtain ⟨rest, s₃, h₃, h⟩ := bind_eq_ok.1 h
    obtain ⟨_, s₄, h₄, h⟩ := bind_eq_ok.1 h
    cases h
    have b₁ := built_mark hs hkind h₁
    have b₂ := built_oneAttribute b₁.ready h₂
    have b₃ := built_afterCommas built_oneAttribute b₂.ready h₃
    have b₄ := built_expectMark b₃.ready h₄
    exact ((b₁.both ((b₂.both b₃).both b₄)).node .attributes).right
  · cases h
    exact .absent hs

theorem built_functionFrom {fuel : Nat} {mark : Mark} {attributes : List Attribute}
    (result : Option TypeExpr) {f : FunctionDecl} {s₀ s₁ : State}
    (hattributes : Built (.maybe (.rule .attributes)) s₀ (attributeTrees attributes) s₁)
    (hresult : Built (.rule .returnType) s₁ [resultTree result] s)
    (h : functionFrom fuel mark attributes result s = .ok (f, s')) :
    Built (.rule .funcDecl) s₀ [f.tree] s' := by
  obtain ⟨w, s₁, h₁, h⟩ := bind_eq_ok.1 h
  obtain ⟨found, s₂, h₂, h⟩ := bind_eq_ok.1 h
  cases h
  have b₁ := built_name hresult.ready h₁
  have b₂ := built_params b₁.ready h₂
  exact (hattributes.both (hresult.both (b₁.both b₂))).node .funcDecl

theorem built_functionAfter {fuel : Nat} {mark : Mark} {attributes : List Attribute}
    {f : FunctionDecl} {s₀ : State}
    (hattributes : Built (.maybe (.rule .attributes)) s₀ (attributeTrees attributes) s)
    (h : functionAfter fuel mark attributes s = .ok (f, s')) :
    Built (.rule .funcDecl) s₀ [f.tree] s' := by
  rw [functionAfter, look_bind] at h
  split at h
  · rename_i hkind
    obtain ⟨_, s₁, h₁, h⟩ := bind_eq_ok.1 h
    have b₁ := built_keyword hattributes.ready hkind h₁
    exact built_functionFrom none hattributes (b₁.left.node .returnType) h
  · obtain ⟨type, s₁, h₁, h⟩ := bind_eq_ok.1 h
    have b₁ := built_typeExpr hattributes.ready h₁
    exact built_functionFrom (some type) hattributes (b₁.right.node .returnType) h

/-- A function that is read is one the grammar derives. -/
theorem built_function {fuel : Nat} {f : FunctionDecl} (hs : s.Ready)
    (h : function fuel s = .ok (f, s')) : Built (.rule .funcDecl) s [f.tree] s' := by
  rw [function, look_bind] at h
  obtain ⟨found, s₁, h₁, h⟩ := bind_eq_ok.1 h
  exact built_functionAfter (built_attributes hs h₁) h

theorem built_constructorAfter {fuel : Nat} {mark : Mark} {attributes : List Attribute}
    {m : MemberDecl} {s₀ : State}
    (hattributes : Built (.maybe (.rule .attributes)) s₀ (attributeTrees attributes) s)
    (hkind : s.look.kind = .keyword .constructor)
    (h : constructorAfter fuel mark attributes s = .ok (m, s')) :
    Built (.rule .interfaceMember) s₀ [m.tree] s' := by
  obtain ⟨_, s₁, h₁, h⟩ := bind_eq_ok.1 h
  obtain ⟨found, s₂, h₂, h⟩ := bind_eq_ok.1 h
  cases h
  have b₁ := built_keyword hattributes.ready hkind h₁
  have b₂ := built_params b₁.ready h₂
  exact ((hattributes.both (b₁.both b₂)).node .constructorDecl).left.node .interfaceMember

/-- A function whose result is a name was taken for a word first. -/
theorem built_namedMember {fuel : Nat} {mark : Mark} {m : MemberDecl} (hs : s.Ready)
    (hkind : s.look.kind = .name) (h : namedMember fuel mark s = .ok (m, s')) :
    Built (.rule .interfaceMember) s [m.tree] s' := by
  obtain ⟨first, s₁, h₁, h⟩ := bind_eq_ok.1 h
  have b₁ := built_word hs hkind h₁
  have hnamed := ((b₁.node .namedType).right.right.node .baseType)
  obtain ⟨p, hp, h⟩ := look_eq_ok.1 h
  split at hp <;> subst hp
  · obtain ⟨found, s₂, h₂, h⟩ := bind_eq_ok.1 h
    cases h
    exact ((b₁.both (built_params b₁.ready h₂)).node .variantDecl).right.right.node
      .interfaceMember
  · rename_i hquestion
    obtain ⟨_, s₂, h₂, h⟩ := bind_eq_ok.1 h
    obtain ⟨f, s₃, h₃, h⟩ := bind_eq_ok.1 h
    cases h
    have b₂ := built_mark b₁.ready hquestion h₂
    have hresult := ((hnamed.both b₂).node .optionalType).left.node .typeRef
    exact (built_functionFrom (some (.optional (.named (toWord first)))) (.absent hs)
      (hresult.right.node .returnType) h₃).left.right.node .interfaceMember
  · obtain ⟨f, s₂, h₂, h⟩ := bind_eq_ok.1 h
    cases h
    exact (built_functionFrom (some (.named (toWord first))) (.absent hs)
      ((hnamed.right.node .typeRef).right.node .returnType) h₂).left.right.node .interfaceMember

theorem built_attributedMember {fuel : Nat} {mark : Mark} {m : MemberDecl} (hs : s.Ready)
    (h : attributedMember fuel mark s = .ok (m, s')) :
    Built (.rule .interfaceMember) s [m.tree] s' := by
  obtain ⟨found, s₁, h₁, h⟩ := bind_eq_ok.1 h
  have b₁ := built_attributes hs h₁
  rw [look_bind] at h
  split at h
  · rename_i hkind
    exact built_constructorAfter b₁ hkind h
  · obtain ⟨f, s₂, h₂, h⟩ := bind_eq_ok.1 h
    cases h
    exact (built_functionAfter b₁ h₂).left.right.node .interfaceMember

/-- A member that is read is one the grammar derives. -/
theorem built_member {fuel : Nat} {m : MemberDecl} (hs : s.Ready)
    (h : member fuel s = .ok (m, s')) : Built (.rule .interfaceMember) s [m.tree] s' := by
  obtain ⟨p, hp, h⟩ := look_eq_ok.1 h
  split at hp <;> subst hp
  · rename_i hkind
    exact built_namedMember hs hkind h
  · exact built_attributedMember hs h

theorem built_defaultValue {value : DefaultValue} (hs : s.Ready)
    (h : defaultValue s = .ok (value, s')) : Built (.rule .defaultValue) s [value.tree] s' := by
  obtain ⟨p, hp, h⟩ := look_eq_ok.1 h
  split at hp <;> subst hp
  · rename_i hkind
    obtain ⟨t, s₁, h₁, h⟩ := bind_eq_ok.1 h
    cases h
    exact (built_literal hs hkind h₁).left.node .defaultValue
  · rename_i hkind
    obtain ⟨t, s₁, h₁, h⟩ := bind_eq_ok.1 h
    cases h
    have b₁ := (built_shift hs hkind (by simp) h₁).2
    rw [DefaultValue.tree, String.toList_ofList]
    exact b₁.left.right.node .defaultValue
  · rename_i hkind
    obtain ⟨t, s₁, h₁, h⟩ := bind_eq_ok.1 h
    cases h
    exact (built_word hs hkind h₁).right.right.node .defaultValue
  · cases h

theorem built_fieldDefault {value : Option DefaultValue} (hs : s.Ready)
    (h : fieldDefault s = .ok (value, s')) :
    Built (.maybe (.rule .fieldDefault)) s (defaultTrees value) s' := by
  rw [fieldDefault, look_bind] at h
  split at h
  · rename_i hkind
    obtain ⟨_, s₁, h₁, h⟩ := bind_eq_ok.1 h
    obtain ⟨value, s₂, h₂, h⟩ := bind_eq_ok.1 h
    cases h
    have b₁ := built_mark hs hkind h₁
    exact ((b₁.both (built_defaultValue b₁.ready h₂)).node .fieldDefault).right
  · cases h
    exact .absent hs

/-- A field that is read is one the grammar derives. -/
theorem built_field {fuel : Nat} {f : FieldDecl} (hs : s.Ready)
    (h : field fuel s = .ok (f, s')) : Built (.rule .fieldDecl) s [f.tree] s' := by
  obtain ⟨found, s₁, h₁, h⟩ := bind_eq_ok.1 h
  obtain ⟨type, s₂, h₂, h⟩ := bind_eq_ok.1 h
  obtain ⟨w, s₃, h₃, h⟩ := bind_eq_ok.1 h
  obtain ⟨value, s₄, h₄, h⟩ := bind_eq_ok.1 h
  obtain ⟨_, s₅, h₅, h⟩ := bind_eq_ok.1 h
  cases h
  have b₁ := built_attributes hs h₁
  have b₂ := built_typeExpr b₁.ready h₂
  have b₃ := built_name b₂.ready h₃
  have b₄ := built_fieldDefault b₃.ready h₄
  have b₅ := built_expectMark b₄.ready h₅
  exact (b₁.both (b₂.both (b₃.both (b₄.both b₅)))).node .fieldDecl

/-- The values behind the first one, and the comma that may stand behind the last. -/
theorem built_moreValues {fuel : Nat} {found : List Literal} {trailing : Bool} (hs : s.Ready)
    (h : moreValues fuel s = .ok ((found, trailing), s')) :
    ∃ s₁, Built (.many (.both (.mark .comma) (.token .text))) s
        (behindCommas (found.map Literal.tree)) s₁ ∧
      Built (.maybe (.mark .comma)) s₁ (if trailing then [.mark .comma] else []) s' := by
  induction fuel generalizing s found with
  | zero => cases h
  | succ fuel ih =>
    rw [moreValues, look_bind] at h
    split at h
    · rename_i hcomma
      obtain ⟨_, s₁, h₁, h⟩ := bind_eq_ok.1 h
      have b₁ := built_mark hs hcomma h₁
      rw [look_bind] at h
      split at h
      · rename_i htext
        obtain ⟨t, s₂, h₂, h⟩ := bind_eq_ok.1 h
        obtain ⟨⟨rest, last⟩, s₃, h₃, h⟩ := bind_eq_ok.1 h
        cases h
        have b₂ := built_literal b₁.ready htext h₂
        obtain ⟨s₄, b₃, b₄⟩ := ih b₂.ready h₃
        exact ⟨s₄, (b₁.both b₂).more b₃, b₄⟩
      · cases h
        exact ⟨s, .done hs, b₁.right⟩
    · cases h
      exact ⟨_, .done hs, .absent hs⟩

/-- The values of an enumeration that are read are ones the grammar derives. -/
theorem built_values {fuel : Nat} {found : List Literal} {trailing : Bool} (hs : s.Ready)
    (h : values fuel s = .ok ((found, trailing), s')) :
    Built (.maybe (.rule .enumValues)) s (valueTrees found trailing) s' := by
  rw [values, look_bind] at h
  split at h
  · rename_i htext
    obtain ⟨t, s₁, h₁, h⟩ := bind_eq_ok.1 h
    obtain ⟨⟨rest, last⟩, s₂, h₂, h⟩ := bind_eq_ok.1 h
    cases h
    have b₁ := built_literal hs htext h₁
    obtain ⟨s₃, b₂, b₃⟩ := built_moreValues b₁.ready h₂
    exact (((b₁.both b₂).both b₃).node .enumValues).right
  · cases h
    exact .absent hs

/-- What is read in braces is built of what is read between them. -/
theorem built_braced {inside : Context} {p : Parser α} {f : α → Body} {g : α → List Tree}
    {pattern : Pattern} {w : Word} {b : Body}
    (hp : ∀ {s a s'}, s.Ready → p s = .ok (a, s') → Built pattern s (g a) s') (hs : s.Ready)
    (h : braced inside (p >>= fun a => pure (f a)) s = .ok ((w, b), s')) :
    ∃ a, b = f a ∧
      Built (.chain [.token .name, .mark .openBrace, pattern, .mark .closeBrace, .mark .semicolon])
        s (bracedTrees w (g a)) s' := by
  obtain ⟨w, s₁, h₁, h⟩ := bind_eq_ok.1 h
  obtain ⟨_, s₂, h₂, h⟩ := bind_eq_ok.1 h
  obtain ⟨b, s₃, h₃, h⟩ := bind_eq_ok.1 h
  obtain ⟨_, s₄, h₄, h⟩ := bind_eq_ok.1 h
  cases h
  obtain ⟨a, s₅, h₅, h₃⟩ := bind_eq_ok.1 h₃
  cases h₃
  obtain ⟨_, s₆, h₆, h₄⟩ := bind_eq_ok.1 h₄
  obtain ⟨_, s₇, h₇, h₄⟩ := bind_eq_ok.1 h₄
  cases h₄
  have b₁ := built_name hs h₁
  have b₂ := built_expectMark b₁.ready h₂
  have b₃ := hp b₂.ready h₅
  have b₄ := built_expectMark b₃.ready h₆
  have b₅ := built_expectMark b₄.ready h₇
  exact ⟨a, rfl, b₁.both (b₂.both (b₃.both (b₄.both b₅)))⟩

theorem built_typedefTarget {fuel : Nat} {target : TypedefTarget} (hs : s.Ready)
    (h : typedefTarget fuel s = .ok (target, s')) :
    Built (.rule .typedefTarget) s [target.tree] s' := by
  rw [typedefTarget, look_bind] at h
  split at h
  · rename_i hkind
    obtain ⟨_, s₁, h₁, h⟩ := bind_eq_ok.1 h
    cases h
    exact (built_keyword hs hkind h₁).left.node .typedefTarget
  · obtain ⟨type, s₁, h₁, h⟩ := bind_eq_ok.1 h
    cases h
    exact (built_typeExpr hs h₁).right.node .typedefTarget

/-- The keyword says which of the definitions it is. -/
theorem built_definitionBody {fuel : Nat} {w : Word} {b : Body} {attributes : List Attribute}
    {s₀ : State} (hattributes : Built (.maybe (.rule .attributes)) s₀ (attributeTrees attributes) s)
    (h : definitionBody fuel s = .ok ((w, b), s')) (mark : Mark) :
    Built (.rule .definition) s₀ [Definition.tree ⟨mark, attributes, w, b⟩] s' := by
  obtain ⟨p, hp, h⟩ := look_eq_ok.1 h
  split at hp <;> subst hp
  · rename_i hkind
    obtain ⟨_, s₁, h₁, h⟩ := bind_eq_ok.1 h
    have b₁ := built_keyword hattributes.ready hkind h₁
    obtain ⟨found, rfl, b₂⟩ := built_braced (built_upTo built_function) b₁.ready h
    exact ((hattributes.both (b₁.both b₂)).node .namespaceDef).left.node .definition
  · rename_i hkind
    obtain ⟨_, s₁, h₁, h⟩ := bind_eq_ok.1 h
    have b₁ := built_keyword hattributes.ready hkind h₁
    obtain ⟨found, rfl, b₂⟩ := built_braced (built_upTo built_field) b₁.ready h
    exact ((hattributes.both (b₁.both b₂)).node .dictionaryDef).left.right.node .definition
  · rename_i hkind
    obtain ⟨_, s₁, h₁, h⟩ := bind_eq_ok.1 h
    have b₁ := built_keyword hattributes.ready hkind h₁
    obtain ⟨found, rfl, b₂⟩ := built_braced
      (f := fun a : List Literal × Bool => .enumeration a.1 a.2)
      (g := fun a => valueTrees a.1 a.2) built_values b₁.ready h
    exact ((hattributes.both (b₁.both b₂)).node .enumDef).left.right.right.node .definition
  · rename_i hkind
    obtain ⟨_, s₁, h₁, h⟩ := bind_eq_ok.1 h
    have b₁ := built_keyword hattributes.ready hkind h₁
    obtain ⟨found, rfl, b₂⟩ := built_braced (built_upTo built_member) b₁.ready h
    exact ((hattributes.both (b₁.both b₂)).node .interfaceDef).left.right.right.right.node
      .definition
  · rename_i hkind
    obtain ⟨_, s₁, h₁, h⟩ := bind_eq_ok.1 h
    obtain ⟨_, s₂, h₂, h⟩ := bind_eq_ok.1 h
    have b₁ := built_keyword hattributes.ready hkind h₁
    obtain ⟨hinterface, h₂⟩ := expect_eq_ok.1 h₂
    have b₂ := built_keyword b₁.ready hinterface h₂
    obtain ⟨found, rfl, b₃⟩ := built_braced (built_upTo built_function) b₂.ready h
    exact ((hattributes.both (b₁.both (b₂.both b₃))).node
      .callbackDef).left.right.right.right.right.node .definition
  · rename_i hkind
    obtain ⟨_, s₁, h₁, h⟩ := bind_eq_ok.1 h
    obtain ⟨target, s₂, h₂, h⟩ := bind_eq_ok.1 h
    obtain ⟨w, s₃, h₃, h⟩ := bind_eq_ok.1 h
    obtain ⟨_, s₄, h₄, h⟩ := bind_eq_ok.1 h
    cases h
    have b₁ := built_keyword hattributes.ready hkind h₁
    have b₂ := built_typedefTarget b₁.ready h₂
    have b₃ := built_name b₂.ready h₃
    have b₄ := built_expectMark b₃.ready h₄
    exact ((hattributes.both (b₁.both (b₂.both (b₃.both b₄)))).node
      .typedefDef).right.right.right.right.right.node .definition
  · cases h

/-- A definition that is read is one the grammar derives. -/
theorem built_definition {fuel : Nat} {d : Definition} (hs : s.Ready)
    (h : definition fuel s = .ok (d, s')) : Built (.rule .definition) s [d.tree] s' := by
  rw [definition, look_bind] at h
  obtain ⟨found, s₁, h₁, h⟩ := bind_eq_ok.1 h
  obtain ⟨⟨w, b⟩, s₂, h₂, h⟩ := bind_eq_ok.1 h
  cases h
  exact built_definitionBody (built_attributes hs h₁) h₂ _

/-- The definitions of a file go on up to its end. -/
theorem built_definitions {size fuel : Nat} {file : File} (hs : s.Ready)
    (h : definitions size fuel s = .ok (file, s')) :
    Built (.many (.rule .definition)) s (file.map Definition.tree) s' ∧
      s'.look.kind = .finish := by
  induction fuel generalizing s file with
  | zero => cases h
  | succ fuel ih =>
    rw [definitions, look_bind] at h
    split at h
    · rename_i hend
      cases h
      exact ⟨.done hs, hend⟩
    · obtain ⟨d, s₁, h₁, h⟩ := bind_eq_ok.1 h
      obtain ⟨rest, s₂, h₂, h⟩ := bind_eq_ok.1 h
      cases h
      have b₁ := built_definition hs h₁
      obtain ⟨b₂, hend⟩ := ih b₁.ready h₂
      exact ⟨b₁.more b₂, hend⟩

end Parser

/-- What is taken up to the end of a text are the tokens of the text. -/
theorem Taken.splits {s s' : State} {ls : List Lexeme} (h : Taken s ls s') (hs : s.Ready)
    (hend : s'.look.kind = .finish) : Splits (s.look.lexeme ++ s.behind.rest) ls := by
  induction h with
  | nil =>
    obtain hspelled | ⟨-, hlexeme, hrest⟩ := hs
    · rw [hend] at hspelled
      exact hspelled.elim
    · rw [hlexeme, hrest]
      exact .nil .refl
  | cons hne hread _ ih =>
    obtain ⟨hready, hskip⟩ := Parser.ready_of_read hread
    exact .cons .refl (hs.resolve_right fun h => hne h.1) ((ih hready hend).skip hskip)

/-- A text that is parsed is made of the tokens of the tree of the file, and the tree is derived
from the start of the grammar. -/
theorem parseFile_sound {text : List Char} {file : File} (h : parseFile text = .ok file) :
    file.tree.From .start ∧ Splits text file.tree.leaves := by
  unfold parseFile at h
  split at h
  · cases h
  · rename_i start hstart
    obtain ⟨⟨found, s⟩, hfound, rfl⟩ := Outcome.map_eq_ok.1 h
    obtain ⟨hready, hskip⟩ := Parser.ready_of_read hstart
    obtain ⟨built, hend⟩ := Parser.built_definitions hready hfound
    have hsplits := (built.taken.splits hready hend).skip hskip
    exact ⟨(built.node .start).derives, by simpa [File.tree] using hsplits⟩

end Bindery.Legacy
