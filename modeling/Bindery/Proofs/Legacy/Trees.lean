import Bindery.Legacy.Syntax
import Bindery.Proofs.Legacy.Derivations
/-!
# The tree of a file

What a parsed file says, written out again as a derivation tree: the keywords and the punctuation
that the file leaves out have one place each. The marks are all that is not in the tree.
-/
namespace Bindery.Legacy

def Word.tree (w : Word) : Tree := .leaf ⟨.name, w.text.toList⟩

def Literal.tree (l : Literal) : Tree := .leaf ⟨.text, '"' :: (l.content ++ ['"'])⟩

def AttributeValue.tree : AttributeValue → Tree
  | word w => .node .attrValue [w.tree]
  | text l => .node .attrValue [l.tree]

def Attribute.tree (a : Attribute) : Tree :=
  .node .attr (a.name.tree ::
    match a.value with
    | none => []
    | some value => [.mark .equal, value.tree])

def attributeTrees (attributes : List Attribute) : List Tree :=
  if attributes = [] then []
  else [.node .attributes
    (.mark .openBracket :: (separated (attributes.map Attribute.tree) ++ [.mark .closeBracket]))]

/-- A type without the node that every type has. -/
def TypeExpr.inner : TypeExpr → Tree
  | named w => .node .baseType [.node .namedType [w.tree]]
  | sequence item =>
    .node .baseType [.node .sequenceType
      [.keyword .sequence, .mark .less, .node .typeRef [item.inner], .mark .greater]]
  | map key value =>
    .node .baseType [.node .mapType
      [.keyword .record, .mark .less, .node .typeRef [key.inner], .mark .comma,
        .node .typeRef [value.inner], .mark .greater]]
  | optional type => .node .optionalType [type.inner, .mark .question]

def TypeExpr.tree (t : TypeExpr) : Tree := .node .typeRef [t.inner]

def ParamDecl.tree (p : ParamDecl) : Tree := .node .param [p.type.tree, p.name.tree]

def paramTrees (params : List ParamDecl) : List Tree :=
  if params = [] then [] else [.node .params (separated (params.map ParamDecl.tree))]

/-- Parameters in parentheses, and the semicolon behind them. -/
def callTrees (params : List ParamDecl) : List Tree :=
  .mark .openParen :: (paramTrees params ++ [.mark .closeParen, .mark .semicolon])

def resultTree : Option TypeExpr → Tree
  | none => .node .returnType [.keyword .void]
  | some type => .node .returnType [type.tree]

def FunctionDecl.tree (f : FunctionDecl) : Tree :=
  .node .funcDecl
    (attributeTrees f.attributes ++ (resultTree f.result :: f.name.tree :: callTrees f.params))

def ConstructorDecl.tree (c : ConstructorDecl) : Tree :=
  .node .constructorDecl
    (attributeTrees c.attributes ++ (.keyword .constructor :: callTrees c.params))

def VariantDecl.tree (v : VariantDecl) : Tree :=
  .node .variantDecl (v.name.tree :: callTrees v.params)

def MemberDecl.tree : MemberDecl → Tree
  | constructor c => .node .interfaceMember [c.tree]
  | function f => .node .interfaceMember [f.tree]
  | variant v => .node .interfaceMember [v.tree]

def DefaultValue.tree : DefaultValue → Tree
  | text l => .node .defaultValue [l.tree]
  | number spelling => .node .defaultValue [.leaf ⟨.number, spelling.toList⟩]
  | word w => .node .defaultValue [w.tree]

def defaultTrees : Option DefaultValue → List Tree
  | none => []
  | some value => [.node .fieldDefault [.mark .equal, value.tree]]

def FieldDecl.tree (f : FieldDecl) : Tree :=
  .node .fieldDecl
    (attributeTrees f.attributes ++
      (f.type.tree :: f.name.tree :: (defaultTrees f.default ++ [.mark .semicolon])))

def valueTrees (values : List Literal) (trailingComma : Bool) : List Tree :=
  if values = [] then []
  else [.node .enumValues
    (separated (values.map Literal.tree) ++ if trailingComma then [.mark .comma] else [])]

def TypedefTarget.tree : TypedefTarget → Tree
  | foreign => .node .typedefTarget [.keyword .externWord]
  | type t => .node .typedefTarget [t.tree]

/-- A name and some trees in braces, and the semicolon behind them. -/
def bracedTrees (name : Word) (body : List Tree) : List Tree :=
  name.tree :: .mark .openBrace :: (body ++ [.mark .closeBrace, .mark .semicolon])

/-- What stands behind the attributes of a definition, with the rule of the definition. -/
def Body.trees (name : Word) : Body → Rule × List Tree
  | space functions =>
    (.namespaceDef, .keyword .namespaceWord ::
      bracedTrees name (functions.map FunctionDecl.tree))
  | dictionary fields =>
    (.dictionaryDef, .keyword .dictionary :: bracedTrees name (fields.map FieldDecl.tree))
  | enumeration values trailingComma =>
    (.enumDef, .keyword .enum :: bracedTrees name (valueTrees values trailingComma))
  | interface members =>
    (.interfaceDef, .keyword .interface :: bracedTrees name (members.map MemberDecl.tree))
  | callback functions =>
    (.callbackDef, .keyword .callback :: .keyword .interface ::
      bracedTrees name (functions.map FunctionDecl.tree))
  | typedef target =>
    (.typedefDef, [.keyword .typedef, target.tree, name.tree, .mark .semicolon])

def Definition.tree (d : Definition) : Tree :=
  .node .definition
    [.node (d.body.trees d.name).1 (attributeTrees d.attributes ++ (d.body.trees d.name).2)]

def File.tree (file : File) : Tree := .node .start (file.map Definition.tree)

end Bindery.Legacy
