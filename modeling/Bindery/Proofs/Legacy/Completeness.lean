import Bindery.Proofs.Legacy.Printed
import Bindery.Proofs.Legacy.Shapes
/-!
# What is derived is parsed

The parser of each rule is followed over the printed tokens of one tree: it takes these and no
more, and its result has that tree. What may stand behind the tree is part of the statement,
because a parser looks one token ahead and because the next word is read in the context that the
parser leaves.
-/
namespace Bindery.Legacy.Parser

variable {α : Type} {ctx : Context} {fuel : Nat} {s : State} {rest : List Lexeme}

/-- The types inside a type are parsed with less fuel, and there are fewer tokens for them. -/
theorem baseType_succeeds {inner : Parser TypeExpr} {t : Tree}
    (hinner : ∀ {s t rest}, t.From .typeRef → Ahead fuel s (t.leaves ++ rest) →
      frontKind rest ∈ [.name, .mark .comma, .mark .greater] →
      Succeeds inner fuel s rest (fun e => e.tree = t))
    (h : t.From .baseType) (ahead : Ahead (fuel + 1) s (t.leaves ++ rest))
    (next : Context.word.Knows (frontKind rest)) :
    Succeeds (baseType inner) (fuel + 1) s rest (fun e => e.inner = t) := by
  have htype : ∀ {t : Tree} {rest : List Lexeme}, t.From .typeRef →
      Context.types.Knows (frontKind (t.leaves ++ rest)) :=
    fun ht => knows_of_from ht (by decide) (by decide)
  refine Succeeds.mono ?_ (Nat.le_succ fuel)
  refine .look ?_
  obtain ⟨u, hu, rfl⟩ | ⟨u, hu, rfl⟩ | ⟨u, hu, rfl⟩ := h.baseType
  · obtain ⟨item, hitem, rfl⟩ := hu.sequenceType
    have ahead : Ahead (fuel + 1) s (.keyword .sequence :: .mark .less ::
        (item.leaves ++ .mark .greater :: rest)) := by
      simpa using ahead
    have hkind : s.look.kind = .keyword .sequence := ahead.kind
    rw [hkind]
    refine (shift_one ahead trivial).bind fun _ s₁ _ ahead₁ => ?_
    refine (expectMark_succeeds ahead₁ (htype hitem)).bind fun _ s₂ _ ahead₂ => ?_
    refine (hinner hitem ahead₂ (by simp [Lexeme.mark])).bind fun e s₃ he ahead₃ => ?_
    refine (expectMark_succeeds ahead₃ next).bind fun _ s₄ _ ahead₄ => ?_
    refine .pure ahead₄ ?_
    rw [TypeExpr.inner, ← he]
    rfl
  · obtain ⟨key, hkey, value, hvalue, rfl⟩ := hu.mapType
    have ahead : Ahead (fuel + 1) s (.keyword .record :: .mark .less ::
        (key.leaves ++ .mark .comma :: (value.leaves ++ .mark .greater :: rest))) := by
      simpa using ahead
    have hkind : s.look.kind = .keyword .record := ahead.kind
    rw [hkind]
    refine (shift_one ahead trivial).bind fun _ s₁ _ ahead₁ => ?_
    refine (expectMark_succeeds ahead₁ (htype hkey)).bind fun _ s₂ _ ahead₂ => ?_
    refine (hinner hkey ahead₂ (by simp [Lexeme.mark])).bind fun e s₃ he ahead₃ => ?_
    refine (expectMark_succeeds ahead₃ (htype hvalue)).bind fun _ s₄ _ ahead₄ => ?_
    refine (hinner hvalue ahead₄ (by simp [Lexeme.mark])).bind fun e' s₅ he' ahead₅ => ?_
    refine (expectMark_succeeds ahead₅ next).bind fun _ s₆ _ ahead₆ => ?_
    refine .pure ahead₆ ?_
    rw [TypeExpr.inner, ← he, ← he']
    rfl
  · obtain ⟨text, -, rfl⟩ := hu.namedType
    have ahead : Ahead (fuel + 1) s (⟨.name, text⟩ :: rest) := by simpa using ahead
    have hkind : s.look.kind = .name := ahead.kind
    rw [hkind]
    refine (shift_one ahead next).bind fun token s₁ htoken ahead₁ => ?_
    refine .pure ahead₁ ?_
    rw [TypeExpr.inner, tree_toWord htoken]

/-- A name, a comma or a closing angle bracket stands behind every type. -/
theorem typeExpr_succeeds {t : Tree} (h : t.From .typeRef) (ahead : Ahead fuel s (t.leaves ++ rest))
    (next : frontKind rest ∈ [.name, .mark .comma, .mark .greater]) :
    Succeeds (typeExpr fuel) fuel s rest (fun e => e.tree = t) := by
  induction fuel generalizing s t rest with
  | zero => exact absurd ahead.enough (Nat.not_lt_zero _)
  | succ fuel ih =>
    have hfollow : ∀ kind ∈ [.name, .mark .comma, .mark .greater],
        Context.word.Knows kind ∧ kind ≠ .mark .question := by decide
    obtain ⟨hword, hquestion⟩ := hfollow _ next
    obtain ⟨u, hu, rfl⟩ | ⟨u, hu, rfl⟩ := h.typeRef
    · obtain ⟨base, hbase, rfl⟩ := hu.optionalType
      have ahead : Ahead (fuel + 1) s (base.leaves ++ .mark .question :: rest) := by
        simpa using ahead
      refine (baseType_succeeds ih hbase ahead trivial).bind fun e s₁ he ahead₁ => ?_
      refine .look ?_
      have hkind : s₁.look.kind = .mark .question := ahead₁.kind
      rw [if_pos hkind]
      refine (shift_succeeds ahead₁ hword).bind fun _ s₂ _ ahead₂ => ?_
      refine .pure ahead₂ ?_
      rw [TypeExpr.tree, TypeExpr.inner, he]
    · have ahead : Ahead (fuel + 1) s (u.leaves ++ rest) := by simpa using ahead
      refine (baseType_succeeds ih hu ahead hword).bind fun e s₁ he ahead₁ => ?_
      refine .look ?_
      rw [if_neg (ahead₁.kind ▸ hquestion)]
      exact .pure ahead₁ (by rw [TypeExpr.tree, he])

/-- A parameter that the grammar derives is read as its tree. -/
theorem param_succeeds {t : Tree} (h : t.From .param) (ahead : Ahead fuel s (t.leaves ++ rest))
    (next : frontKind rest = .mark .comma ∨ frontKind rest = .mark .closeParen) :
    Succeeds (param fuel) fuel s rest (fun d => d.tree = t) := by
  obtain ⟨type, htype, text, -, rfl⟩ := h.param
  have ahead : Ahead fuel s (type.leaves ++ ⟨.name, text⟩ :: rest) := by simpa using ahead
  have hnext : Context.none.Knows (frontKind rest) := by
    obtain h | h := next <;> rw [h] <;> trivial
  refine (typeExpr_succeeds htype ahead (by simp)).bind fun e s₁ he ahead₁ => ?_
  refine (name_succeeds ahead₁ hnext).bind fun w s₂ hw ahead₂ => ?_
  exact .pure ahead₂ (by rw [ParamDecl.tree, he, hw])

theorem paramList_succeeds {ts : List Tree} (h : Derives (.maybe (.rule .params)) ts)
    (ahead : Ahead fuel s (leavesOf ts ++ rest)) (next : frontKind rest = .mark .closeParen) :
    Succeeds (paramList fuel) fuel s rest (fun found => paramTrees found = ts) := by
  refine .look ?_
  obtain rfl | h := derives_maybe.1 h
  · have hkind : s.look.kind = .mark .closeParen := ahead.kind.trans next
    rw [if_pos hkind]
    exact .pure ahead rfl
  · obtain ⟨t, ht, rfl⟩ := derives_rule.1 h
    have hkind : s.look.kind ≠ .mark .closeParen := by
      have hfirst : ∀ kind ∈ Rule.params.first, kind ≠ .mark .closeParen := by decide
      rw [ahead.kind, leavesOf_cons, leavesOf_nil, List.append_nil]
      exact hfirst _ (ht.front (by decide) rest)
    rw [if_neg hkind]
    obtain ⟨first, more, hall, rfl⟩ := ht.params
    have ahead : Ahead fuel s (leavesOf (separated (first :: more)) ++ rest) := by simpa using ahead
    refine separated_succeeds param_succeeds
      (fun ht => knows_of_from ht (by decide) (by decide)) (by decide) hall ahead next
      fun d found s₁ hfound ahead₁ => ?_
    exact .pure ahead₁ (by rw [paramTrees, if_neg (List.cons_ne_nil _ _), hfound])

/-- Parameters in parentheses are read as their trees, with the semicolon behind them. -/
theorem params_succeeds {after : Context} {ts : List Tree}
    (h : Derives (.maybe (.rule .params)) ts)
    (ahead : Ahead fuel s
      (.mark .openParen :: (leavesOf ts ++ .mark .closeParen :: .mark .semicolon :: rest)))
    (next : after.Knows (frontKind rest)) :
    Succeeds (params fuel after) fuel s rest (fun found => callTrees found =
      .mark .openParen :: (ts ++ [.mark .closeParen, .mark .semicolon])) := by
  have hfirst : Context.types.Knows
      (frontKind (leavesOf ts ++ .mark .closeParen :: .mark .semicolon :: rest)) :=
    knows_of_derives h (by decide) trivial
  refine (expectMark_succeeds ahead hfirst).bind fun _ s₁ _ ahead₁ => ?_
  refine (paramList_succeeds h ahead₁ rfl).bind fun found s₂ hfound ahead₂ => ?_
  refine (expectMark_succeeds ahead₂ trivial).bind fun _ s₃ _ ahead₃ => ?_
  refine (expectMark_succeeds ahead₃ next).bind fun _ s₄ _ ahead₄ => ?_
  exact .pure ahead₄ (by rw [callTrees, hfound])

theorem attributeValue_succeeds {t : Tree} (h : t.From .attrValue)
    (ahead : Ahead fuel s (t.leaves ++ rest)) (next : Context.none.Knows (frontKind rest)) :
    Succeeds attributeValue fuel s rest (fun value => value.tree = t) := by
  refine .look ?_
  obtain ⟨text, -, rfl⟩ | ⟨text, hspelled, rfl⟩ := h.attrValue
  · have ahead : Ahead fuel s (⟨.name, text⟩ :: rest) := by simpa using ahead
    have hkind : s.look.kind = .name := ahead.kind
    rw [hkind]
    refine (shift_succeeds ahead next).bind fun token s₁ htoken ahead₁ => ?_
    exact .pure ahead₁ (by rw [AttributeValue.tree, tree_toWord htoken])
  · have ahead : Ahead fuel s (⟨.text, text⟩ :: rest) := by simpa using ahead
    have hkind : s.look.kind = .text := ahead.kind
    rw [hkind]
    refine (shift_succeeds ahead next).bind fun token s₁ htoken ahead₁ => ?_
    exact .pure ahead₁ (by rw [AttributeValue.tree, tree_toLiteral htoken hspelled])

/-- An attribute that the grammar derives is read as its tree. -/
theorem oneAttribute_succeeds {t : Tree} (h : t.From .attr)
    (ahead : Ahead fuel s (t.leaves ++ rest))
    (next : frontKind rest = .mark .comma ∨ frontKind rest = .mark .closeBracket) :
    Succeeds oneAttribute fuel s rest (fun a => a.tree = t) := by
  have hnext : Context.none.Knows (frontKind rest) := by
    obtain h | h := next <;> rw [h] <;> trivial
  obtain ⟨text, -, rfl | ⟨value, hvalue, rfl⟩⟩ := h.attr
  · have ahead : Ahead fuel s (⟨.name, text⟩ :: rest) := by simpa using ahead
    refine (name_succeeds ahead hnext).bind fun w s₁ hw ahead₁ => ?_
    have hkind : s₁.look.kind ≠ .mark .equal := by
      rw [ahead₁.kind]
      obtain h | h := next <;> rw [h] <;> decide
    refine .look ?_
    rw [if_neg hkind]
    exact .pure ahead₁ (by rw [Attribute.tree, hw])
  · have ahead : Ahead fuel s (⟨.name, text⟩ :: .mark .equal :: (value.leaves ++ rest)) := by
      simpa using ahead
    refine (name_succeeds ahead trivial).bind fun w s₁ hw ahead₁ => ?_
    have hkind : s₁.look.kind = .mark .equal := ahead₁.kind
    refine .look ?_
    rw [if_pos hkind]
    have hword : Context.word.Knows (frontKind (value.leaves ++ rest)) :=
      knows_of_from hvalue (by decide) (by decide)
    refine (shift_succeeds ahead₁ hword).bind fun _ s₂ _ ahead₂ => ?_
    refine (attributeValue_succeeds hvalue ahead₂ hnext).bind fun a s₃ ha ahead₃ => ?_
    exact .pure ahead₃ (by simp [Attribute.tree, hw, ha])

/-- What stands behind attributes, or where none are, starts with no bracket. -/
theorem attributes_succeeds {ts : List Tree} (h : Derives (.maybe (.rule .attributes)) ts)
    (ahead : Ahead fuel s (leavesOf ts ++ rest)) (next : Context.attributed.Knows (frontKind rest))
    (hbracket : frontKind rest ≠ .mark .openBracket) :
    Succeeds (attributes fuel) fuel s rest (fun found => attributeTrees found = ts) := by
  refine .look ?_
  obtain rfl | h := derives_maybe.1 h
  · have hkind : s.look.kind ≠ .mark .openBracket := ahead.kind ▸ hbracket
    rw [if_neg hkind]
    exact .pure ahead rfl
  · obtain ⟨t, ht, rfl⟩ := derives_rule.1 h
    obtain ⟨first, more, hall, rfl⟩ := ht.attributes
    have ahead : Ahead fuel s (.mark .openBracket ::
        (leavesOf (separated (first :: more)) ++ .mark .closeBracket :: rest)) := by
      simpa using ahead
    have hkind : s.look.kind = .mark .openBracket := ahead.kind
    rw [if_pos hkind]
    have hattr : ∀ {t : Tree} {rest : List Lexeme}, t.From .attr →
        Context.word.Knows (frontKind (t.leaves ++ rest)) :=
      fun ht => knows_of_from ht (by decide) (by decide)
    have hword : Context.word.Knows (frontKind
        (leavesOf (separated (first :: more)) ++ .mark .closeBracket :: rest)) := by
      rw [separated, leavesOf_cons, List.append_assoc]
      exact hattr (hall first List.mem_cons_self)
    refine (shift_succeeds ahead hword).bind fun _ s₁ _ ahead₁ => ?_
    refine separated_succeeds oneAttribute_succeeds hattr (by decide) hall ahead₁ rfl
      fun a found s₂ hfound ahead₂ => ?_
    refine (expectMark_succeeds ahead₂ next).bind fun _ s₃ _ ahead₃ => ?_
    exact .pure ahead₃ (by rw [attributeTrees, if_neg (List.cons_ne_nil _ _), hfound])

section
variable {attributes : List Attribute} {mark : Mark} {text : List Char} {ts : List Tree}
  (hts : Derives (.maybe (.rule .params)) ts)
include hts

theorem functionFrom_succeeds {result : Option TypeExpr}
    (ahead : Ahead fuel s (⟨.name, text⟩ :: .mark .openParen ::
      (leavesOf ts ++ .mark .closeParen :: .mark .semicolon :: rest)))
    (next : Context.members.Knows (frontKind rest)) :
    Succeeds (functionFrom fuel mark attributes result) fuel s rest (fun f => f.tree =
      .node .funcDecl (attributeTrees attributes ++ (resultTree result :: .leaf ⟨.name, text⟩ ::
        .mark .openParen :: (ts ++ [.mark .closeParen, .mark .semicolon])))) := by
  refine (name_succeeds ahead trivial).bind fun w s₁ hw ahead₁ => ?_
  refine (params_succeeds hts ahead₁ next).bind fun found s₂ hfound ahead₂ => ?_
  exact .pure ahead₂ (by rw [FunctionDecl.tree, hw, hfound])

theorem functionAfter_succeeds {t : Tree} (h : t.From .returnType)
    (ahead : Ahead fuel s (t.leaves ++ ⟨.name, text⟩ :: .mark .openParen ::
      (leavesOf ts ++ .mark .closeParen :: .mark .semicolon :: rest)))
    (next : Context.members.Knows (frontKind rest)) :
    Succeeds (functionAfter fuel mark attributes) fuel s rest (fun f => f.tree =
      .node .funcDecl (attributeTrees attributes ++ (t :: .leaf ⟨.name, text⟩ ::
        .mark .openParen :: (ts ++ [.mark .closeParen, .mark .semicolon])))) := by
  refine .look ?_
  obtain rfl | ⟨type, htype, rfl⟩ := h.returnType
  · have ahead : Ahead fuel s (.keyword .void :: ⟨.name, text⟩ :: .mark .openParen ::
        (leavesOf ts ++ .mark .closeParen :: .mark .semicolon :: rest)) := by
      simpa using ahead
    have hkind : s.look.kind = .keyword .void := ahead.kind
    rw [if_pos hkind]
    refine (shift_succeeds ahead (by rfl)).bind fun _ s₁ _ ahead₁ => ?_
    exact functionFrom_succeeds hts ahead₁ next
  · have ahead : Ahead fuel s (type.leaves ++ ⟨.name, text⟩ :: .mark .openParen ::
        (leavesOf ts ++ .mark .closeParen :: .mark .semicolon :: rest)) := by
      simpa using ahead
    have hkind : s.look.kind ≠ .keyword .void := by
      have hfirst : ∀ kind ∈ Rule.typeRef.first, kind ≠ .keyword .void := by decide
      rw [ahead.kind]
      exact hfirst _ (htype.front (by decide) _)
    rw [if_neg hkind]
    refine (typeExpr_succeeds htype ahead (by simp)).bind fun e s₁ he ahead₁ => ?_
    have hresult : resultTree (some e) = .node .returnType [type] := by rw [resultTree, he]
    rw [← hresult]
    exact functionFrom_succeeds hts ahead₁ next

end

/-- A function that the grammar derives is read as its tree. -/
theorem function_succeeds {t : Tree} (h : t.From .funcDecl)
    (ahead : Ahead fuel s (t.leaves ++ rest))
    (next : Context.members.Knows (frontKind rest)) :
    Succeeds (function fuel) fuel s rest (fun f => f.tree = t) := by
  obtain ⟨as, has, result, hresult, text, -, ts, hts, rfl⟩ := h.funcDecl
  have ahead : Ahead fuel s (leavesOf as ++ (result.leaves ++ ⟨.name, text⟩ :: .mark .openParen ::
      (leavesOf ts ++ .mark .closeParen :: .mark .semicolon :: rest))) := by
    simpa using ahead
  have hfirst := hresult.front (by decide) (⟨.name, text⟩ :: .mark .openParen ::
    (leavesOf ts ++ .mark .closeParen :: .mark .semicolon :: rest))
  refine .look ?_
  refine (attributes_succeeds has ahead (knows_of_from hresult (by decide) (by decide))
    (fun h => by rw [h] at hfirst; revert hfirst; decide)).bind fun found s₁ hfound ahead₁ => ?_
  rw [← hfound]
  exact functionAfter_succeeds hts hresult ahead₁ next

/-- The tree of a result type that is a name. -/
def namedResult (text : List Char) : Tree :=
  .node .returnType [.node .typeRef [.node .baseType [.node .namedType [.leaf ⟨.name, text⟩]]]]

/-- The tree of a result type that is a name with a question mark. -/
def optionalResult (text : List Char) : Tree :=
  .node .returnType [.node .typeRef [.node .optionalType
    [.node .baseType [.node .namedType [.leaf ⟨.name, text⟩]], .mark .question]]]

/-- A base type that starts with a name is that name. -/
theorem eq_named_of_front {t : Tree} (h : t.From .baseType)
    (hfront : frontKind (t.leaves ++ rest) = .name) :
    ∃ text, t = .node .baseType [.node .namedType [.leaf ⟨.name, text⟩]] := by
  obtain ⟨u, hu, rfl⟩ | ⟨u, hu, rfl⟩ | ⟨u, hu, rfl⟩ := h.baseType
  · obtain ⟨item, -, rfl⟩ := hu.sequenceType
    simp [Lexeme.keyword] at hfront
  · obtain ⟨key, -, value, -, rfl⟩ := hu.mapType
    simp [Lexeme.keyword] at hfront
  · obtain ⟨text, -, rfl⟩ := hu.namedType
    exact ⟨text, rfl⟩

/-- A result that starts with a name is that name, with a question mark or without. -/
theorem eq_named_or_optional_of_front {t : Tree} (h : t.From .returnType)
    (hfront : frontKind (t.leaves ++ rest) = .name) :
    ∃ text, t = namedResult text ∨ t = optionalResult text := by
  obtain rfl | ⟨type, htype, rfl⟩ := h.returnType
  · simp [Lexeme.keyword] at hfront
  · obtain ⟨u, hu, rfl⟩ | ⟨u, hu, rfl⟩ := htype.typeRef
    · obtain ⟨base, hbase, rfl⟩ := hu.optionalType
      have hbase' : frontKind (base.leaves ++ .mark .question :: rest) = .name := by
        simpa using hfront
      obtain ⟨text, rfl⟩ := eq_named_of_front hbase hbase'
      exact ⟨text, .inr rfl⟩
    · have hu' : frontKind (u.leaves ++ rest) = .name := by simpa using hfront
      obtain ⟨text, rfl⟩ := eq_named_of_front hu hu'
      exact ⟨text, .inl rfl⟩

theorem variant_succeeds {mark : Mark} {t : Tree} (h : t.From .variantDecl)
    (ahead : Ahead fuel s (t.leaves ++ rest)) (next : Context.members.Knows (frontKind rest)) :
    Succeeds (namedMember fuel mark) fuel s rest (fun m => m.tree = .node .interfaceMember [t]) := by
  obtain ⟨text, -, ts, hts, rfl⟩ := h.variantDecl
  have ahead : Ahead fuel s (⟨.name, text⟩ :: .mark .openParen ::
      (leavesOf ts ++ .mark .closeParen :: .mark .semicolon :: rest)) := by
    simpa using ahead
  refine (shift_succeeds ahead trivial).bind fun first s₁ hfirst ahead₁ => ?_
  refine .look ?_
  have hkind : s₁.look.kind = .mark .openParen := ahead₁.kind
  rw [hkind]
  refine (params_succeeds hts ahead₁ next).bind fun found s₂ hfound ahead₂ => ?_
  exact .pure ahead₂ (by rw [MemberDecl.tree, VariantDecl.tree, tree_toWord hfirst, hfound])

/-- A function without attributes whose result is a name is told from a variant by what is behind
the name. -/
theorem namedFunction_succeeds {mark : Mark} {result : Tree} {text name : List Char}
    {ts : List Tree} (hresult : result = namedResult text ∨ result = optionalResult text)
    (hts : Derives (.maybe (.rule .params)) ts)
    (ahead : Ahead fuel s (result.leaves ++ ⟨.name, name⟩ :: .mark .openParen ::
      (leavesOf ts ++ .mark .closeParen :: .mark .semicolon :: rest)))
    (next : Context.members.Knows (frontKind rest)) :
    Succeeds (namedMember fuel mark) fuel s rest (fun m => m.tree = .node .interfaceMember
      [.node .funcDecl (result :: .leaf ⟨.name, name⟩ :: .mark .openParen ::
        (ts ++ [.mark .closeParen, .mark .semicolon]))]) := by
  obtain rfl | rfl := hresult
  · have ahead : Ahead fuel s (⟨.name, text⟩ :: ⟨.name, name⟩ :: .mark .openParen ::
        (leavesOf ts ++ .mark .closeParen :: .mark .semicolon :: rest)) := by
      simpa [namedResult] using ahead
    refine (shift_succeeds ahead (by rfl)).bind fun first s₁ hfirst ahead₁ => ?_
    refine .look ?_
    have hkind : s₁.look.kind = .name := ahead₁.kind
    rw [hkind]
    refine (functionFrom_succeeds hts ahead₁ next).bind fun f s₂ hf ahead₂ => ?_
    refine .pure ahead₂ ?_
    rw [MemberDecl.tree, hf, resultTree, TypeExpr.tree, TypeExpr.inner, tree_toWord hfirst]
    rfl
  · have ahead : Ahead fuel s (⟨.name, text⟩ :: .mark .question :: ⟨.name, name⟩ ::
        .mark .openParen :: (leavesOf ts ++ .mark .closeParen :: .mark .semicolon :: rest)) := by
      simpa [optionalResult] using ahead
    refine (shift_succeeds ahead trivial).bind fun first s₁ hfirst ahead₁ => ?_
    refine .look ?_
    have hkind : s₁.look.kind = .mark .question := ahead₁.kind
    rw [hkind]
    refine (shift_succeeds ahead₁ (by rfl)).bind fun _ s₂ _ ahead₂ => ?_
    refine (functionFrom_succeeds hts ahead₂ next).bind fun f s₃ hf ahead₃ => ?_
    refine .pure ahead₃ ?_
    rw [MemberDecl.tree, hf, resultTree, TypeExpr.tree, TypeExpr.inner, TypeExpr.inner,
      tree_toWord hfirst]
    rfl

theorem attributedMember_succeeds {good : MemberDecl → Prop} (h : s.look.kind ≠ .name)
    (hmember : Succeeds (attributedMember fuel s.look.mark) fuel s rest good) :
    Succeeds (member fuel) fuel s rest good := by
  refine .look ?_
  split
  · rename_i hkind
    exact absurd hkind h
  · exact hmember

theorem constructor_succeeds {t : Tree} (h : t.From .constructorDecl)
    (ahead : Ahead fuel s (t.leaves ++ rest)) (next : Context.members.Knows (frontKind rest)) :
    Succeeds (member fuel) fuel s rest (fun m => m.tree = .node .interfaceMember [t]) := by
  have hname : s.look.kind ≠ .name := by
    have hfirst : ∀ kind ∈ Rule.constructorDecl.first, kind ≠ .name := by decide
    exact ahead.kind ▸ hfirst _ (h.front (by decide) rest)
  obtain ⟨as, has, ts, hts, rfl⟩ := h.constructorDecl
  have ahead : Ahead fuel s (leavesOf as ++ .keyword .constructor :: .mark .openParen ::
      (leavesOf ts ++ .mark .closeParen :: .mark .semicolon :: rest)) := by
    simpa using ahead
  refine attributedMember_succeeds hname ?_
  refine (attributes_succeeds has ahead (by simp [Lexeme.keyword, Context.Knows, Context.attributed])
    (by simp [Lexeme.keyword])).bind
    fun found s₁ hfound ahead₁ => ?_
  refine .look ?_
  have hkind : s₁.look.kind = .keyword .constructor := ahead₁.kind
  rw [if_pos hkind]
  refine (shift_succeeds ahead₁ trivial).bind fun _ s₂ _ ahead₂ => ?_
  refine (params_succeeds hts ahead₂ next).bind fun params s₃ hparams ahead₃ => ?_
  exact .pure ahead₃ (by rw [MemberDecl.tree, ConstructorDecl.tree, hfound, hparams])

/-- A method that the grammar derives is read as one, with attributes or without. -/
theorem method_succeeds {t : Tree} (h : t.From .funcDecl)
    (ahead : Ahead fuel s (t.leaves ++ rest)) (next : Context.members.Knows (frontKind rest)) :
    Succeeds (member fuel) fuel s rest (fun m => m.tree = .node .interfaceMember [t]) := by
  obtain ⟨as, has, result, hresult, name, -, ts, hts, rfl⟩ := h.funcDecl
  have ahead : Ahead fuel s (leavesOf as ++ (result.leaves ++ ⟨.name, name⟩ :: .mark .openParen ::
      (leavesOf ts ++ .mark .closeParen :: .mark .semicolon :: rest))) := by
    simpa using ahead
  have hfront := hresult.front (by decide) (⟨.name, name⟩ :: .mark .openParen ::
    (leavesOf ts ++ .mark .closeParen :: .mark .semicolon :: rest))
  have hfirst : ∀ kind ∈ Rule.returnType.first, Context.attributed.Knows kind ∧
      kind ≠ .mark .openBracket ∧ kind ≠ .keyword .constructor := by decide
  obtain ⟨hknows, hbracket, hconstructor⟩ := hfirst _ hfront
  by_cases hname : s.look.kind = .name
  · obtain rfl | has := derives_maybe.1 has
    · obtain ⟨text, hresult⟩ := eq_named_or_optional_of_front hresult (ahead.kind ▸ hname)
      refine .look ?_
      rw [hname]
      exact namedFunction_succeeds hresult hts ahead next
    · obtain ⟨u, hu, rfl⟩ := derives_rule.1 has
      obtain ⟨_, _, -, rfl⟩ := hu.attributes
      have hkind : s.look.kind = .mark .openBracket := ahead.kind
      rw [hname] at hkind
      cases hkind
  · refine attributedMember_succeeds hname ?_
    refine (attributes_succeeds has ahead hknows hbracket).bind fun found s₁ hfound ahead₁ => ?_
    refine .look ?_
    rw [if_neg (ahead₁.kind ▸ hconstructor)]
    refine (functionAfter_succeeds hts hresult ahead₁ next).bind fun f s₂ hf ahead₂ => ?_
    exact .pure ahead₂ (by rw [MemberDecl.tree, hf, hfound])

/-- A member of an interface that the grammar derives is read as its tree. -/
theorem member_succeeds {t : Tree} (h : t.From .interfaceMember)
    (ahead : Ahead fuel s (t.leaves ++ rest)) (next : Context.members.Knows (frontKind rest)) :
    Succeeds (member fuel) fuel s rest (fun m => m.tree = t) := by
  obtain ⟨u, hu, rfl⟩ | ⟨u, hu, rfl⟩ | ⟨u, hu, rfl⟩ := h.interfaceMember
  · exact constructor_succeeds hu (by simpa using ahead) next
  · exact method_succeeds hu (by simpa using ahead) next
  · have ahead : Ahead fuel s (u.leaves ++ rest) := by simpa using ahead
    have hkind : s.look.kind = .name := by
      rw [ahead.kind]
      simpa [Rule.first] using hu.front (by decide) rest
    refine .look ?_
    rw [hkind]
    exact variant_succeeds hu ahead next

theorem defaultValue_succeeds {t : Tree} (h : t.From .defaultValue)
    (ahead : Ahead fuel s (t.leaves ++ rest)) (next : Context.none.Knows (frontKind rest)) :
    Succeeds defaultValue fuel s rest (fun value => value.tree = t) := by
  refine .look ?_
  obtain ⟨text, hspelled, rfl⟩ | ⟨text, -, rfl⟩ | ⟨text, -, rfl⟩ := h.defaultValue
  · have ahead : Ahead fuel s (⟨.text, text⟩ :: rest) := by simpa using ahead
    have hkind : s.look.kind = .text := ahead.kind
    rw [hkind]
    refine (shift_succeeds ahead next).bind fun token s₁ htoken ahead₁ => ?_
    exact .pure ahead₁ (by rw [DefaultValue.tree, tree_toLiteral htoken hspelled])
  · have ahead : Ahead fuel s (⟨.number, text⟩ :: rest) := by simpa using ahead
    have hkind : s.look.kind = .number := ahead.kind
    rw [hkind]
    refine (shift_succeeds ahead next).bind fun token s₁ htoken ahead₁ => ?_
    have hlexeme : token.lexeme = text := congrArg Lexeme.text htoken
    exact .pure ahead₁ (by rw [DefaultValue.tree, String.toList_ofList, hlexeme])
  · have ahead : Ahead fuel s (⟨.name, text⟩ :: rest) := by simpa using ahead
    have hkind : s.look.kind = .name := ahead.kind
    rw [hkind]
    refine (shift_succeeds ahead next).bind fun token s₁ htoken ahead₁ => ?_
    exact .pure ahead₁ (by rw [DefaultValue.tree, tree_toWord htoken])

theorem fieldDefault_succeeds {ts : List Tree} (h : Derives (.maybe (.rule .fieldDefault)) ts)
    (ahead : Ahead fuel s (leavesOf ts ++ rest)) (next : frontKind rest = .mark .semicolon) :
    Succeeds fieldDefault fuel s rest (fun value => defaultTrees value = ts) := by
  have hnext : Context.none.Knows (frontKind rest) := by
    rw [next]
    trivial
  refine .look ?_
  obtain rfl | h := derives_maybe.1 h
  · have hkind : s.look.kind ≠ .mark .equal := by
      rw [ahead.kind]
      exact next ▸ by decide
    rw [if_neg hkind]
    exact .pure ahead rfl
  · obtain ⟨t, ht, rfl⟩ := derives_rule.1 h
    obtain ⟨value, hvalue, rfl⟩ := ht.fieldDefault
    have ahead : Ahead fuel s (.mark .equal :: (value.leaves ++ rest)) := by simpa using ahead
    have hkind : s.look.kind = .mark .equal := ahead.kind
    rw [if_pos hkind]
    have hword : Context.word.Knows (frontKind (value.leaves ++ rest)) :=
      knows_of_from hvalue (by decide) (by decide)
    refine (shift_succeeds ahead hword).bind fun _ s₁ _ ahead₁ => ?_
    refine (defaultValue_succeeds hvalue ahead₁ hnext).bind fun found s₂ hfound ahead₂ => ?_
    exact .pure ahead₂ (by rw [defaultTrees, hfound])

/-- A field that the grammar derives is read as its tree. -/
theorem field_succeeds {t : Tree} (h : t.From .fieldDecl) (ahead : Ahead fuel s (t.leaves ++ rest))
    (next : Context.types.Knows (frontKind rest)) :
    Succeeds (field fuel) fuel s rest (fun f => f.tree = t) := by
  obtain ⟨as, has, type, htype, text, -, ts, hts, rfl⟩ := h.fieldDecl
  have ahead : Ahead fuel s (leavesOf as ++ (type.leaves ++ ⟨.name, text⟩ ::
      (leavesOf ts ++ .mark .semicolon :: rest))) := by
    simpa using ahead
  have hfirst : ∀ kind ∈ Rule.typeRef.first,
      Context.attributed.Knows kind ∧ kind ≠ .mark .openBracket := by decide
  obtain ⟨hknows, hbracket⟩ := hfirst _ (htype.front (by decide)
    (⟨.name, text⟩ :: (leavesOf ts ++ .mark .semicolon :: rest)))
  refine (attributes_succeeds has ahead hknows hbracket).bind fun found s₁ hfound ahead₁ => ?_
  refine (typeExpr_succeeds htype ahead₁ (by simp)).bind fun e s₂ he ahead₂ => ?_
  refine (name_succeeds ahead₂ (knows_of_derives hts (by decide) trivial)).bind
    fun w s₃ hw ahead₃ => ?_
  refine (fieldDefault_succeeds hts ahead₃ rfl).bind fun value s₄ hvalue ahead₄ => ?_
  refine (expectMark_succeeds ahead₄ next).bind fun _ s₅ _ ahead₅ => ?_
  exact .pure ahead₅ (by rw [FieldDecl.tree, hfound, he, hw, hvalue])

/-- Members of a body, up to its closing brace. -/
theorem body_succeeds {one : Parser α} {tree : α → Tree} {r : Rule}
    (hone : ∀ {s t rest}, t.From r → Ahead fuel s (t.leaves ++ rest) →
      ctx.Knows (frontKind rest) → Succeeds one fuel s rest (fun a => tree a = t))
    (hr : r ≠ .start) (hfirst : ∀ kind ∈ r.first, ctx.Knows kind)
    (hclose : .mark .closeBrace ∉ r.first) {ts : List Tree} (hts : Derives (.many (.rule r)) ts)
    (ahead : Ahead fuel s (leavesOf ts ++ rest)) (hrest : frontKind rest = .mark .closeBrace) :
    Succeeds (upTo .closeBrace one fuel) fuel s rest (fun found => found.map tree = ts) := by
  have hts := derives_many.1 hts
  refine upTo_succeeds hone hr hfirst hclose hts ahead hrest ?_
  have hlt := ahead.enough
  have hle := length_le_leavesOf hr hts
  rw [List.length_append] at hlt
  omega

theorem moreValues_succeeds {ts last : List Tree} (hts : ∀ t ∈ ts, Derives (.token .text) [t])
    (hlast : Derives (.maybe (.mark .comma)) last)
    (ahead : Ahead fuel s (leavesOf (behindCommas ts) ++ (leavesOf last ++ rest)))
    (hrest : frontKind rest = .mark .closeBrace) {n : Nat} (hn : ts.length < n) :
    Succeeds (moreValues n) fuel s rest (fun found => found.1.map Literal.tree = ts ∧
      (if found.2 then [.mark .comma] else []) = last) := by
  have hnone : Context.none.Knows (frontKind rest) := by
    rw [hrest]
    trivial
  induction n generalizing s ts with
  | zero => exact absurd hn (Nat.not_lt_zero _)
  | succ n ih =>
    refine .look ?_
    cases ts with
    | nil =>
      obtain rfl | h := derives_maybe.1 hlast
      · have hkind : s.look.kind ≠ .mark .comma := by
          rw [ahead.kind]
          exact hrest ▸ by decide
        rw [if_neg hkind]
        exact .pure ahead ⟨rfl, rfl⟩
      · obtain rfl := derives_mark.1 h
        have hkind : s.look.kind = .mark .comma := ahead.kind
        rw [if_pos hkind]
        refine (shift_succeeds ahead hnone).bind fun _ s₁ _ ahead₁ => ?_
        refine .look ?_
        have hkind₁ : s₁.look.kind ≠ .text := by
          rw [ahead₁.kind]
          exact hrest ▸ by decide
        rw [if_neg hkind₁]
        exact .pure ahead₁ ⟨rfl, rfl⟩
    | cons t ts =>
      obtain ⟨ht, hmore⟩ := List.forall_mem_cons.1 hts
      obtain ⟨text, hspelled, htext⟩ := derives_text.1 ht
      cases htext
      have ahead : Ahead fuel s (.mark .comma :: ⟨.text, text⟩ ::
          (leavesOf (behindCommas ts) ++ (leavesOf last ++ rest))) := by
        simpa [behindCommas] using ahead
      have hkind : s.look.kind = .mark .comma := ahead.kind
      rw [if_pos hkind]
      refine (shift_succeeds ahead trivial).bind fun _ s₁ _ ahead₁ => ?_
      refine .look ?_
      have hkind₁ : s₁.look.kind = .text := ahead₁.kind
      rw [if_pos hkind₁]
      have hnext : Context.none.Knows
          (frontKind (leavesOf (behindCommas ts) ++ (leavesOf last ++ rest))) :=
        knows_behindCommas (knows_of_derives hlast (by decide) hnone) ts
      refine (shift_succeeds ahead₁ hnext).bind fun token s₂ htoken ahead₂ => ?_
      refine (ih hmore ahead₂ (Nat.lt_of_succ_lt_succ hn)).bind fun found s₃ hfound ahead₃ => ?_
      refine .pure ahead₃ ⟨?_, hfound.2⟩
      rw [List.map_cons, tree_toLiteral htoken hspelled, hfound.1]

/-- The values of an enumeration are read as their trees, with a comma behind the last or
without. -/
theorem values_succeeds {ts : List Tree} (h : Derives (.maybe (.rule .enumValues)) ts)
    (ahead : Ahead fuel s (leavesOf ts ++ rest)) (hrest : frontKind rest = .mark .closeBrace) :
    Succeeds (values fuel) fuel s rest (fun found => valueTrees found.1 found.2 = ts) := by
  refine .look ?_
  obtain rfl | h := derives_maybe.1 h
  · have hkind : s.look.kind ≠ .text := by
      rw [ahead.kind]
      exact hrest ▸ by decide
    rw [if_neg hkind]
    exact .pure ahead rfl
  · obtain ⟨t, ht, rfl⟩ := derives_rule.1 h
    obtain ⟨first, more, hall, last, hlast, rfl⟩ := ht.enumValues
    obtain ⟨hfirst, hmore⟩ := List.forall_mem_cons.1 hall
    obtain ⟨text, hspelled, htext⟩ := derives_text.1 hfirst
    cases htext
    have ahead : Ahead fuel s
        (⟨.text, text⟩ :: (leavesOf (behindCommas more) ++ (leavesOf last ++ rest))) := by
      simpa [separated] using ahead
    have hkind : s.look.kind = .text := ahead.kind
    rw [if_pos hkind]
    have hnone : Context.none.Knows (frontKind rest) := by
      rw [hrest]
      trivial
    refine (shift_succeeds ahead (knows_behindCommas
      (knows_of_derives hlast (by decide) hnone) more)).bind fun token s₁ htoken ahead₁ => ?_
    have hn : more.length < fuel := by
      have hlt := ahead₁.enough
      have hle := length_le_leavesOf_behindCommas more
      rw [List.length_append] at hlt
      omega
    refine (moreValues_succeeds hmore hlast ahead₁ hrest hn).bind fun found s₂ hfound ahead₂ => ?_
    refine .pure ahead₂ ?_
    rw [valueTrees, if_neg (List.cons_ne_nil _ _), List.map_cons, tree_toLiteral htoken hspelled,
      hfound.1, hfound.2, separated]

theorem knows_braced {body : Pattern} {ts : List Tree}
    (h : Derives (.chain [.token .name, .mark .openBrace, body, .mark .closeBrace,
      .mark .semicolon]) ts) : Context.word.Knows (frontKind (leavesOf ts ++ rest)) := by
  obtain ⟨text, -, inner, -, rfl⟩ := Tree.of_derives_braced h
  rfl

theorem close_succeeds (ahead : Ahead fuel s (.mark .closeBrace :: .mark .semicolon :: rest))
    (next : Context.definition.Knows (frontKind rest)) :
    Succeeds close fuel s rest (fun _ => True) := by
  refine (expectMark_succeeds ahead trivial).bind fun _ s₁ _ ahead₁ => ?_
  refine (expectMark_succeeds ahead₁ next).bind fun _ s₂ _ ahead₂ => ?_
  exact .pure ahead₂ trivial

/-- What stands in braces is read as its trees if its reader succeeds up to the closing brace. -/
theorem braced_succeeds {inside : Context} {p : Parser α} {f : α → Body} {g : α → List Tree}
    {body : Pattern}
    (hp : ∀ {s ts rest}, Derives body ts → Ahead fuel s (leavesOf ts ++ rest) →
      frontKind rest = .mark .closeBrace → Succeeds p fuel s rest (fun a => g a = ts))
    (hfirst : ∀ kind ∈ body.first, inside.Knows kind) {ts : List Tree}
    (h : Derives (.chain [.token .name, .mark .openBrace, body, .mark .closeBrace,
      .mark .semicolon]) ts)
    (ahead : Ahead fuel s (leavesOf ts ++ rest))
    (next : Context.definition.Knows (frontKind rest)) :
    Succeeds (braced inside (p >>= fun a => pure (f a))) fuel s rest
      (fun found => ∃ a, found.2 = f a ∧ bracedTrees found.1 (g a) = ts) := by
  obtain ⟨text, -, inner, hinner, rfl⟩ := Tree.of_derives_braced h
  have ahead : Ahead fuel s (⟨.name, text⟩ :: .mark .openBrace ::
      (leavesOf inner ++ .mark .closeBrace :: .mark .semicolon :: rest)) := by
    simpa using ahead
  refine (name_succeeds ahead trivial).bind fun w s₁ hw ahead₁ => ?_
  refine (expectMark_succeeds ahead₁ (knows_of_derives hinner hfirst trivial)).bind
    fun _ s₂ _ ahead₂ => ?_
  have hbody : Succeeds (p >>= fun a => pure (f a)) fuel s₂
      (.mark .closeBrace :: .mark .semicolon :: rest) (fun b => ∃ a, b = f a ∧ g a = inner) :=
    (hp hinner ahead₂ rfl).bind fun a s₃ ha ahead₃ => .pure ahead₃ ⟨a, rfl, ha⟩
  refine hbody.bind fun b s₃ hb ahead₃ => ?_
  obtain ⟨a, rfl, ha⟩ := hb
  refine (close_succeeds ahead₃ next).bind fun _ s₄ _ ahead₄ => ?_
  exact .pure ahead₄ ⟨a, rfl, by rw [bracedTrees, hw, ha]⟩

theorem typedefTarget_succeeds {t : Tree} (h : t.From .typedefTarget)
    (ahead : Ahead fuel s (t.leaves ++ rest)) (next : frontKind rest = .name) :
    Succeeds (typedefTarget fuel) fuel s rest (fun target => target.tree = t) := by
  refine .look ?_
  obtain rfl | ⟨type, htype, rfl⟩ := h.typedefTarget
  · have ahead : Ahead fuel s (.keyword .externWord :: rest) := by simpa using ahead
    have hkind : s.look.kind = .keyword .externWord := ahead.kind
    rw [if_pos hkind]
    refine (shift_succeeds ahead (by rw [next]; rfl)).bind fun _ s₁ _ ahead₁ => ?_
    exact .pure ahead₁ rfl
  · have ahead : Ahead fuel s (type.leaves ++ rest) := by simpa using ahead
    have hkind : s.look.kind ≠ .keyword .externWord := by
      have hfirst : ∀ kind ∈ Rule.typeRef.first, kind ≠ .keyword .externWord := by decide
      exact ahead.kind ▸ hfirst _ (htype.front (by decide) rest)
    rw [if_neg hkind]
    refine (typeExpr_succeeds htype ahead (by simp [next])).bind fun e s₁ he ahead₁ => ?_
    exact .pure ahead₁ (by rw [TypedefTarget.tree, he])

/-- A definition, from what its keyword and the tokens behind it are parsed to. -/
theorem definition_of_body {r : Rule} {k : Keyword} {as ts : List Tree}
    (has : Derives (.maybe (.rule .attributes)) as) (hk : k ∈ Context.attributed.keywords)
    (ahead : Ahead fuel s (leavesOf as ++ .keyword k :: (leavesOf ts ++ rest)))
    (hbody : ∀ s', Ahead fuel s' (.keyword k :: (leavesOf ts ++ rest)) →
      Succeeds (definitionBody fuel) fuel s' rest
        (fun found => found.2.trees found.1 = (r, .keyword k :: ts))) :
    Succeeds (definition fuel) fuel s rest
      (fun d => d.tree = .node .definition [.node r (as ++ .keyword k :: ts)]) := by
  refine .look ?_
  refine (attributes_succeeds has ahead hk (by simp [Lexeme.keyword])).bind
    fun found s₁ hfound ahead₁ => ?_
  refine (hbody s₁ ahead₁).bind fun b s₂ hb ahead₂ => ?_
  exact .pure ahead₂ (by rw [Definition.tree, hb, hfound])

/-- A definition with a keyword, a name and a body in braces. -/
theorem bracedDefinition_succeeds {r : Rule} (k : Keyword) (inside : Context) {p : Parser α}
    (f : α → Body) {g : α → List Tree} {body : Pattern}
    (hparser : ∀ {s}, s.look.kind = .keyword k →
      definitionBody fuel s = (shift .word >>= fun _ => braced inside (p >>= fun a => pure (f a))) s)
    (htrees : ∀ w a, (f a).trees w = (r, .keyword k :: bracedTrees w (g a)))
    (hr : production r = .chain [.maybe (.rule .attributes), .keyword k, .token .name,
      .mark .openBrace, body, .mark .closeBrace, .mark .semicolon])
    (hk : k ∈ Context.attributed.keywords) (hfirst : ∀ kind ∈ body.first, inside.Knows kind)
    (hp : ∀ {s ts rest}, Derives body ts → Ahead fuel s (leavesOf ts ++ rest) →
      frontKind rest = .mark .closeBrace → Succeeds p fuel s rest (fun a => g a = ts))
    {t : Tree} (h : t.From r) (ahead : Ahead fuel s (t.leaves ++ rest))
    (next : Context.definition.Knows (frontKind rest)) :
    Succeeds (definition fuel) fuel s rest (fun d => d.tree = .node .definition [t]) := by
  obtain ⟨as, has, ts, hts, rfl⟩ := h.keyworded hr
  refine definition_of_body has hk (by simpa using ahead) fun s₁ ahead₁ => ?_
  have hkind : s₁.look.kind = .keyword k := ahead₁.kind
  rw [Succeeds, hparser hkind]
  refine (shift_succeeds ahead₁ (knows_braced hts)).bind fun _ s₂ _ ahead₂ => ?_
  refine (braced_succeeds hp hfirst hts ahead₂ next).imp ?_
  rintro ⟨w, b⟩ ⟨a, rfl, rfl⟩
  exact htrees w a

theorem callback_succeeds {t : Tree} (h : t.From .callbackDef)
    (ahead : Ahead fuel s (t.leaves ++ rest))
    (next : Context.definition.Knows (frontKind rest)) :
    Succeeds (definition fuel) fuel s rest (fun d => d.tree = .node .definition [t]) := by
  obtain ⟨as, has, tail, htail, rfl⟩ := h.keyworded rfl
  obtain ⟨_, hinterface, ts, hts, rfl⟩ := derives_both.1 htail
  obtain rfl := derives_keyword.1 hinterface
  refine definition_of_body has (by decide) (by simpa using ahead) fun s₁ ahead₁ => ?_
  refine .look ?_
  have hkind : s₁.look.kind = .keyword .callback := ahead₁.kind
  rw [hkind]
  have ahead₁ : Ahead fuel s₁ (.keyword .callback :: .keyword .interface ::
      (leavesOf ts ++ rest)) := by
    simpa using ahead₁
  have hcallback : Context.callback.Knows (.keyword .interface) := by decide
  refine (shift_succeeds ahead₁ hcallback).bind fun _ s₂ _ ahead₂ => ?_
  refine (expect_succeeds ahead₂ rfl (knows_braced hts)).bind fun _ s₃ _ ahead₃ => ?_
  refine (braced_succeeds (body_succeeds function_succeeds (by decide) (by decide) (by decide))
    (by decide) hts ahead₃ next).imp ?_
  rintro ⟨w, b⟩ ⟨a, rfl, rfl⟩
  rfl

/-- A typedef that the grammar derives is read as its tree. -/
theorem typedef_succeeds {t : Tree} (h : t.From .typedefDef)
    (ahead : Ahead fuel s (t.leaves ++ rest))
    (next : Context.definition.Knows (frontKind rest)) :
    Succeeds (definition fuel) fuel s rest (fun d => d.tree = .node .definition [t]) := by
  obtain ⟨as, has, ts, hts, rfl⟩ := h.keyworded rfl
  obtain ⟨target, htarget, text, -, rfl⟩ : ∃ target, target.From .typedefTarget ∧
      ∃ text, Spelled .name text ∧ [target, .leaf ⟨.name, text⟩, .mark .semicolon] = ts := by
    simpa [Pattern.chain] using hts
  refine definition_of_body has (by decide) (by simpa using ahead) fun s₁ ahead₁ => ?_
  refine .look ?_
  have hkind : s₁.look.kind = .keyword .typedef := ahead₁.kind
  rw [hkind]
  have ahead₁ : Ahead fuel s₁ (.keyword .typedef ::
      (target.leaves ++ ⟨.name, text⟩ :: .mark .semicolon :: rest)) := by
    simpa using ahead₁
  refine (shift_succeeds ahead₁ (knows_of_from htarget (by decide) (by decide))).bind
    fun _ s₂ _ ahead₂ => ?_
  refine (typedefTarget_succeeds htarget ahead₂ rfl).bind fun found s₃ hfound ahead₃ => ?_
  refine (name_succeeds ahead₃ trivial).bind fun w s₄ hw ahead₄ => ?_
  refine (expectMark_succeeds ahead₄ next).bind fun _ s₅ _ ahead₅ => ?_
  exact .pure ahead₅ (by rw [Body.trees, hfound, hw])

/-- A definition that the grammar derives is read as its tree. -/
theorem definition_succeeds {t : Tree} (h : t.From .definition)
    (ahead : Ahead fuel s (t.leaves ++ rest))
    (next : Context.definition.Knows (frontKind rest)) :
    Succeeds (definition fuel) fuel s rest (fun d => d.tree = t) := by
  obtain ⟨r, hr, u, hu, rfl⟩ := h.definition
  have ahead : Ahead fuel s (u.leaves ++ rest) := by simpa using ahead
  simp only [Tree.definitions, List.mem_cons, List.not_mem_nil, or_false] at hr
  obtain rfl | rfl | rfl | rfl | rfl | rfl := hr
  · exact bracedDefinition_succeeds .namespaceWord .functions .space
      (fun h => by simp only [definitionBody, look_bind, h]) (fun _ _ => rfl) rfl (by decide)
      (by decide) (body_succeeds function_succeeds (by decide) (by decide) (by decide)) hu ahead next
  · exact bracedDefinition_succeeds .dictionary .types .dictionary
      (fun h => by simp only [definitionBody, look_bind, h]) (fun _ _ => rfl) rfl (by decide)
      (by decide) (body_succeeds field_succeeds (by decide) (by decide) (by decide)) hu ahead next
  · exact bracedDefinition_succeeds .enum .none
      (fun found : List Literal × Bool => .enumeration found.1 found.2)
      (fun h => by simp only [definitionBody, look_bind, h]) (fun _ _ => rfl) rfl (by decide)
      (by decide) values_succeeds hu ahead next
  · exact bracedDefinition_succeeds .interface .members .interface
      (fun h => by simp only [definitionBody, look_bind, h]) (fun _ _ => rfl) rfl (by decide)
      (by decide) (body_succeeds member_succeeds (by decide) (by decide) (by decide)) hu ahead next
  · exact callback_succeeds hu ahead next
  · exact typedef_succeeds hu ahead next

/-- The definitions of a file, up to the end of the text. -/
theorem definitions_succeeds {ts : List Tree} (hts : ∀ t ∈ ts, t.From .definition)
    (ahead : Ahead fuel s (leavesOf ts)) {n : Nat} (hn : ts.length < n) :
    Succeeds (definitions fuel n) fuel s [] (fun file => file.map Definition.tree = ts) := by
  induction n generalizing s ts with
  | zero => exact absurd hn (Nat.not_lt_zero _)
  | succ n ih =>
    refine .look ?_
    cases ts with
    | nil =>
      have hkind : s.look.kind = .finish := ahead.kind
      rw [if_pos hkind]
      exact .pure ahead rfl
    | cons t ts =>
      obtain ⟨ht, hmore⟩ := List.forall_mem_cons.1 hts
      have hkind : s.look.kind ≠ .finish := by
        have hfirst : ∀ kind ∈ Rule.definition.first, kind ≠ .finish := by decide
        exact ahead.kind ▸ hfirst _ (ht.front (by decide) (leavesOf ts))
      rw [if_neg hkind]
      have hnext : Context.definition.Knows (frontKind (leavesOf ts ++ [])) :=
        knows_of_derives (derives_many.2 hmore) (by decide) trivial
      rw [List.append_nil] at hnext
      refine (definition_succeeds ht ahead hnext).bind fun d s₁ hd ahead₁ => ?_
      refine (ih hmore ahead₁ (Nat.lt_of_succ_lt_succ hn)).bind fun file s₂ hfile ahead₂ => ?_
      exact .pure ahead₂ (by rw [List.map_cons, hd, hfile])

end Bindery.Legacy.Parser
