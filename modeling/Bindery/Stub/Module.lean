import Bindery.Stub.Statement
/-!
# Stub modules

The Python stub of one interface: imports, constants, aliases of custom types, enumerations that are
plain lists of names, records, the other enumerations, objects, callback interfaces and functions.
Records and variants that can never hold an object handle are hashable; the others compare by value.
-/
namespace Bindery.Stub

/-- The names that are imported, with their packages. -/
def imports (s : Section) (i : Interface) : List (String × String) :=
  i.externals.map fun e => (s.packageOf e.namespaceName, s.renamed e.name)

/-- The packages in order, each with its names once and in order. -/
def packages (found : List (String × String)) : List (String × List String) :=
  (Order.sortTexts (Order.distinct (found.map Prod.fst))).map fun package =>
    (package, Order.sortTexts (Order.distinct
      ((found.filter (·.1 = package)).map Prod.snd)))

def attributeOf (s : Section) (f : Field) : Attribute :=
  ⟨f.name, .ofTy s f.ty, f.default.map (Value.ofDefault f.ty)⟩

/-- The fields of a class; those with a default come after those without. -/
def attributesOf (s : Section) (fields : List Field) : List Attribute :=
  (fields.filter (·.default.isNone) ++ fields.filter (·.default.isSome)).map (attributeOf s)

def paramsOf (s : Section) (inputs : List Param) : List (String × Annotation) :=
  inputs.map fun p => (p.name, .ofTy s p.ty)

def functionOf (s : Section) (f : Function) : Callable where
  receiver := .nothing
  isAsync := f.isAsync
  name := f.name
  params := paramsOf s f.inputs
  result := f.returns.map (.ofTy s)
  docs := f.docstring
  raises := f.throws.map (.ofTy s)

/-- The constructor `new` is the initialiser of the class, every other one a class method that
returns an object of the class unless it says otherwise. -/
def constructorOf (s : Section) (c : Constructor) : Callable where
  receiver := if c.name = "new" then .object else .ownClass
  name := if c.name = "new" then "__init__" else c.name
  params := paramsOf s c.inputs
  result :=
    if c.name = "new" then none
    else some ((c.returns.map (.ofTy s)).getD (.named (s.renamed c.owner)))
  docs := c.docstring
  raises := c.throws.map (.ofTy s)

def methodOf (s : Section) (m : Method) : Callable where
  receiver := .object
  isAsync := m.isAsync
  name := m.name
  params := paramsOf s m.inputs
  result := m.returns.map (.ofTy s)
  docs := m.docstring
  raises := m.throws.map (.ofTy s)

def traitMethodOf (s : Section) (m : TraitMethod) : Callable where
  receiver := .object
  isAsync := m.isAsync
  name := m.name
  params := paramsOf s m.inputs
  result := m.returns.map (.ofTy s)
  docs := m.docstring
  raises := m.throws.map (.ofTy s)

/-- An enumeration without errors and fields is a plain list of names. -/
def isFlat (e : Enumeration) : Bool := !e.isError && e.variants.all (·.fields.isEmpty)

def flatStatement (s : Section) (e : Enumeration) : Statement :=
  .nameClass (s.renamed e.name) e.docstring (e.variants.map Variant.name)

def recordStatement (s : Section) (hashable : Bool) (r : Record) : Statement :=
  .dataClass hashable (s.renamed r.name) none r.docstring (attributesOf s r.fields)

/-- A class for a variant, and its place in the class of the enumeration. -/
def variantStatements (s : Section) (enumeration : String) (hashable : Bool) (v : Variant) :
    List Statement :=
  let name := enumeration ++ v.name
  [.dataClass hashable name enumeration v.docstring (attributesOf s v.fields),
    .attach enumeration v.name name]

/-- A base class, and a class for each variant. -/
def treeStatements (s : Section) (hashable : Bool) (e : Enumeration) : List Statement :=
  let name := s.renamed e.name
  .baseClass e.isError name e.docstring ::
    e.variants.flatMap (variantStatements s name (hashable && !e.isError))

def objectStatement (s : Section) (i : Interface) (o : Object) : Statement :=
  .memberClass false (s.renamed o.name) o.docstring
    ((i.constructorsOf o.name).map (constructorOf s) ++ (i.methodsOf o.name).map (methodOf s) ++
      (i.traitMethodsOf o.name).map (traitMethodOf s))

def callbackStatement (s : Section) (i : Interface) (c : CallbackInterface) : Statement :=
  .memberClass true (s.renamed c.name) c.docstring
    ((i.traitMethodsOf c.name).map (traitMethodOf s))

def isHashable (i : Interface) (ty : Ty) : Bool := !i.holdsObjects ty

/-- The statements of the stub, given the public name of the library. -/
def statements (s : Section) (i : Interface) (name : String) : List Statement :=
  let enumerations := i.enumerations.values
  [.comment ("Generated by ubind for library '" ++ i.library ++ "'. Do not edit."),
    .moduleDocs i.docstring, .standardImports, .packageImports (packages (imports s i)),
    .constants name s.cdylibName] ++
    i.customs.values.map (fun c => .typeAlias (s.renamed c.name) (.ofTy s c.builtin)) ++
    (enumerations.filter isFlat).map (flatStatement s) ++
    i.records.values.map (fun r => recordStatement s (isHashable i (Interface.recordTy r)) r) ++
    (enumerations.filter (!isFlat ·)).flatMap
      (fun e => treeStatements s (isHashable i (Interface.enumerationTy e)) e) ++
    i.objects.values.map (objectStatement s i) ++
    i.callbacks.values.map (callbackStatement s i) ++
    i.functions.values.map (fun f => .function (functionOf s f))

def render (s : Section) (i : Interface) : Except Interface.Fault String :=
  i.namespaceName.map fun name => fileText ((statements s i name).flatMap Statement.lines)

end Bindery.Stub
