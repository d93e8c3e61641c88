import Bindery.Proofs.Legacy.Derivations
import Mathlib.Logic.Basic
/-!
# The trees of each rule

What a derivation tree of a rule looks like: its children, with the tokens that the rule fixes
written out.
-/
namespace Bindery.Legacy.Tree

variable {t : Tree}

attribute [local simp] production

/-- A reference to a type is optional or not. -/
theorem From.typeRef (h : t.From .typeRef) :
    (∃ type, type.From .optionalType ∧ node .typeRef [type] = t) ∨
      ∃ type, type.From .baseType ∧ node .typeRef [type] = t := by
  obtain ⟨ts, hts, rfl⟩ := (from_iff .typeRef).1 h
  simpa [Pattern.oneOf] using hts

theorem From.optionalType (h : t.From .optionalType) :
    ∃ type, type.From .baseType ∧ node .optionalType [type, mark .question] = t := by
  obtain ⟨ts, hts, rfl⟩ := (from_iff .optionalType).1 h
  simpa [Pattern.chain] using hts

theorem From.baseType (h : t.From .baseType) :
    (∃ type, type.From .sequenceType ∧ node .baseType [type] = t) ∨
      (∃ type, type.From .mapType ∧ node .baseType [type] = t) ∨
      ∃ type, type.From .namedType ∧ node .baseType [type] = t := by
  obtain ⟨ts, hts, rfl⟩ := (from_iff .baseType).1 h
  simpa [Pattern.oneOf] using hts

theorem From.sequenceType (h : t.From .sequenceType) :
    ∃ item, item.From .typeRef ∧
      node .sequenceType [keyword .sequence, mark .less, item, mark .greater] = t := by
  obtain ⟨ts, hts, rfl⟩ := (from_iff .sequenceType).1 h
  simpa [Pattern.chain] using hts

theorem From.mapType (h : t.From .mapType) :
    ∃ key, key.From .typeRef ∧ ∃ value, value.From .typeRef ∧
      node .mapType
        [keyword .record, mark .less, key, mark .comma, value, mark .greater] = t := by
  obtain ⟨ts, hts, rfl⟩ := (from_iff .mapType).1 h
  simpa [Pattern.chain] using hts

theorem From.namedType (h : t.From .namedType) :
    ∃ text, Spelled .name text ∧ node .namedType [leaf ⟨.name, text⟩] = t := by
  obtain ⟨ts, hts, rfl⟩ := (from_iff .namedType).1 h
  simpa using hts

theorem From.param (h : t.From .param) :
    ∃ type, type.From .typeRef ∧ ∃ text, Spelled .name text ∧
      node .param [type, leaf ⟨.name, text⟩] = t := by
  obtain ⟨ts, hts, rfl⟩ := (from_iff .param).1 h
  simpa [Pattern.chain] using hts

theorem From.params (h : t.From .params) :
    ∃ first rest, (∀ u ∈ first :: rest, u.From .param) ∧
      node .params (separated (first :: rest)) = t := by
  obtain ⟨ts, hts, rfl⟩ := (from_iff .params).1 h
  simpa [derives_commas] using hts

theorem From.attrValue (h : t.From .attrValue) :
    (∃ text, Spelled .name text ∧ node .attrValue [leaf ⟨.name, text⟩] = t) ∨
      ∃ text, Spelled .text text ∧ node .attrValue [leaf ⟨.text, text⟩] = t := by
  obtain ⟨ts, hts, rfl⟩ := (from_iff .attrValue).1 h
  simpa [Pattern.oneOf] using hts

theorem From.attr (h : t.From .attr) :
    ∃ text, Spelled .name text ∧
      (node .attr [leaf ⟨.name, text⟩] = t ∨
        ∃ value, value.From .attrValue ∧
          node .attr [leaf ⟨.name, text⟩, mark .equal, value] = t) := by
  obtain ⟨ts, hts, rfl⟩ := (from_iff .attr).1 h
  simpa [Pattern.chain, derives_maybe] using hts

/-- Attributes stand in brackets, with commas between them. -/
theorem From.attributes (h : t.From .attributes) :
    ∃ first rest, (∀ u ∈ first :: rest, u.From .attr) ∧
      node .attributes (mark .openBracket :: (separated (first :: rest) ++ [mark .closeBracket]))
        = t := by
  obtain ⟨ts, hts, rfl⟩ := (from_iff .attributes).1 h
  obtain ⟨_, hopen, _, hrest, rfl⟩ := derives_both.1 hts
  obtain ⟨_, hcommas, _, hclose, rfl⟩ := derives_both.1 hrest
  obtain rfl := derives_mark.1 hopen
  obtain rfl := derives_mark.1 hclose
  obtain ⟨first, rest, hall, rfl⟩ := derives_commas.1 hcommas
  exact ⟨first, rest, hall, rfl⟩

theorem From.returnType (h : t.From .returnType) :
    node .returnType [keyword .void] = t ∨
      ∃ type, type.From .typeRef ∧ node .returnType [type] = t := by
  obtain ⟨ts, hts, rfl⟩ := (from_iff .returnType).1 h
  simpa [Pattern.oneOf] using hts

/-- A function has attributes, a result, a name and parameters. -/
theorem From.funcDecl (h : t.From .funcDecl) :
    ∃ attributes, Derives (.maybe (.rule .attributes)) attributes ∧
    ∃ result, result.From .returnType ∧ ∃ text, Spelled .name text ∧
    ∃ params, Derives (.maybe (.rule .params)) params ∧
      node .funcDecl (attributes ++ (result :: leaf ⟨.name, text⟩ :: mark .openParen ::
        (params ++ [mark .closeParen, mark .semicolon]))) = t := by
  obtain ⟨ts, hts, rfl⟩ := (from_iff .funcDecl).1 h
  obtain ⟨attributes, hattributes, rest, hrest, rfl⟩ := derives_both.1 hts
  exact ⟨attributes, hattributes, by simpa [Pattern.chain] using hrest⟩

theorem From.constructorDecl (h : t.From .constructorDecl) :
    ∃ attributes, Derives (.maybe (.rule .attributes)) attributes ∧
    ∃ params, Derives (.maybe (.rule .params)) params ∧
      node .constructorDecl (attributes ++ (keyword .constructor :: mark .openParen ::
        (params ++ [mark .closeParen, mark .semicolon]))) = t := by
  obtain ⟨ts, hts, rfl⟩ := (from_iff .constructorDecl).1 h
  simpa [Pattern.chain] using hts

theorem From.variantDecl (h : t.From .variantDecl) :
    ∃ text, Spelled .name text ∧ ∃ params, Derives (.maybe (.rule .params)) params ∧
      node .variantDecl (leaf ⟨.name, text⟩ :: mark .openParen ::
        (params ++ [mark .closeParen, mark .semicolon])) = t := by
  obtain ⟨ts, hts, rfl⟩ := (from_iff .variantDecl).1 h
  simpa [Pattern.chain] using hts

/-- A member of an interface is a constructor, a function or a variant. -/
theorem From.interfaceMember (h : t.From .interfaceMember) :
    (∃ u, u.From .constructorDecl ∧ node .interfaceMember [u] = t) ∨
      (∃ u, u.From .funcDecl ∧ node .interfaceMember [u] = t) ∨
      ∃ u, u.From .variantDecl ∧ node .interfaceMember [u] = t := by
  obtain ⟨ts, hts, rfl⟩ := (from_iff .interfaceMember).1 h
  simpa [Pattern.oneOf] using hts

theorem From.defaultValue (h : t.From .defaultValue) :
    (∃ text, Spelled .text text ∧ node .defaultValue [leaf ⟨.text, text⟩] = t) ∨
      (∃ text, Spelled .number text ∧ node .defaultValue [leaf ⟨.number, text⟩] = t) ∨
      ∃ text, Spelled .name text ∧ node .defaultValue [leaf ⟨.name, text⟩] = t := by
  obtain ⟨ts, hts, rfl⟩ := (from_iff .defaultValue).1 h
  simpa [Pattern.oneOf] using hts

theorem From.fieldDefault (h : t.From .fieldDefault) :
    ∃ value, value.From .defaultValue ∧ node .fieldDefault [mark .equal, value] = t := by
  obtain ⟨ts, hts, rfl⟩ := (from_iff .fieldDefault).1 h
  simpa [Pattern.chain] using hts

/-- A field has attributes, a type, a name and a default. -/
theorem From.fieldDecl (h : t.From .fieldDecl) :
    ∃ attributes, Derives (.maybe (.rule .attributes)) attributes ∧
    ∃ type, type.From .typeRef ∧ ∃ text, Spelled .name text ∧
    ∃ default, Derives (.maybe (.rule .fieldDefault)) default ∧
      node .fieldDecl (attributes ++ (type :: leaf ⟨.name, text⟩ ::
        (default ++ [mark .semicolon]))) = t := by
  obtain ⟨ts, hts, rfl⟩ := (from_iff .fieldDecl).1 h
  obtain ⟨attributes, hattributes, rest, hrest, rfl⟩ := derives_both.1 hts
  exact ⟨attributes, hattributes, by simpa [Pattern.chain] using hrest⟩

theorem From.enumValues (h : t.From .enumValues) :
    ∃ first rest, (∀ u ∈ first :: rest, Derives (.token .text) [u]) ∧
    ∃ last, Derives (.maybe (.mark .comma)) last ∧
      node .enumValues (separated (first :: rest) ++ last) = t := by
  obtain ⟨ts, hts, rfl⟩ := (from_iff .enumValues).1 h
  obtain ⟨_, hcommas, last, hlast, rfl⟩ := derives_both.1 hts
  obtain ⟨first, rest, hall, rfl⟩ := derives_commas.1 hcommas
  exact ⟨first, rest, hall, last, hlast, rfl⟩

theorem From.typedefTarget (h : t.From .typedefTarget) :
    node .typedefTarget [keyword .externWord] = t ∨
      ∃ type, type.From .typeRef ∧ node .typedefTarget [type] = t := by
  obtain ⟨ts, hts, rfl⟩ := (from_iff .typedefTarget).1 h
  simpa [Pattern.oneOf] using hts

/-- A definition has attributes, a keyword, and what follows the keyword. -/
theorem From.keyworded {r : Rule} {k : Keyword} {p : Pattern} {rest : List Pattern}
    (hr : production r = .chain (.maybe (.rule .attributes) :: .keyword k :: p :: rest))
    (h : t.From r) :
    ∃ attributes, Derives (.maybe (.rule .attributes)) attributes ∧
    ∃ ts, Derives (.chain (p :: rest)) ts ∧ node r (attributes ++ keyword k :: ts) = t := by
  obtain ⟨ts, hts, rfl⟩ := (from_iff r).1 h
  rw [hr] at hts
  obtain ⟨attributes, hattributes, _, hrest, rfl⟩ := derives_both.1 hts
  obtain ⟨_, hkeyword, ts, htail, rfl⟩ := derives_both.1 hrest
  obtain rfl := derives_keyword.1 hkeyword
  exact ⟨attributes, hattributes, ts, htail, rfl⟩

/-- A name and a body in braces, behind the keywords of a definition. -/
theorem of_derives_braced {body : Pattern} {ts : List Tree}
    (h : Derives (.chain [.token .name, .mark .openBrace, body, .mark .closeBrace,
      .mark .semicolon]) ts) :
    ∃ text, Spelled .name text ∧ ∃ inner, Derives body inner ∧
      leaf ⟨.name, text⟩ :: mark .openBrace ::
        (inner ++ [mark .closeBrace, mark .semicolon]) = ts := by
  simpa [Pattern.chain] using h

/-- The rules of the definitions. -/
def definitions : List Rule :=
  [.namespaceDef, .dictionaryDef, .enumDef, .interfaceDef, .callbackDef, .typedefDef]

/-- A definition is of one of the six kinds. -/
theorem From.definition (h : t.From .definition) :
    ∃ r ∈ definitions, ∃ u, u.From r ∧ node .definition [u] = t := by
  obtain ⟨ts, hts, rfl⟩ := (from_iff .definition).1 h
  simpa [Pattern.oneOf, definitions] using hts

theorem From.start (h : t.From .start) :
    ∃ ts, (∀ u ∈ ts, u.From .definition) ∧ node .start ts = t := by
  obtain ⟨ts, hts, rfl⟩ := (from_iff .start).1 h
  simpa [derives_many] using hts

end Bindery.Legacy.Tree
