import Bindery.Proofs.Item.Json
/-!
# What reading an item keeps

The format as a table: which keys an object of each kind has, and what stands under them. The normal
form of a value has just these keys in the order of the table. Under each it has what the value has
there, the objects inside in normal form as well, and for a missing key its default. An item is
written as the normal form of the value that it was read from. So reading loses nothing of a value
but what its normal form leaves out, and it alters nothing.
-/
namespace Bindery

open Json Outcome

/-- The objects that the format knows. -/
inductive Form where
  | item | param | field | variant | ty
  deriving DecidableEq, Repr

/-- What stands under a key. -/
inductive Content where
  /-- A value that must be there. -/
  | needed
  /-- A value that may be missing. -/
  | optional (default : Json)
  /-- An object of a form, or null. -/
  | part (form : Form)
  /-- A list of objects of a form, empty where it is missing or null. -/
  | parts (form : Form)

abbrev Keys := List (String × Content)

namespace Form

def docstring : String × Content := ("docstring", .optional .null)

/-- The keys of a type behind its kind. -/
@[simp] def typeKeys : (kind : String) → Keys
  | "Primitive" => [("name", .needed)]
  | "Optional" | "Sequence" => [("inner", .part ty)]
  | "Map" => [("key", .part ty), ("value", .part ty)]
  | "Object" | "Record" | "Enum" | "CallbackInterface" =>
    [("module_path", .needed), ("name", .needed)]
  | "Custom" => [("module_path", .needed), ("name", .needed), ("builtin", .part ty)]
  | "External" =>
    [("namespace", .needed), ("module_path", .needed), ("name", .needed),
      ("external_kind", .needed), ("tagged", .optional (.bool false)),
      ("contains_object_references", .optional (.bool true))]
  | _ => []

def signatureKeys : Keys :=
  [("inputs", .parts param), ("return_type", .part ty), ("throws", .part ty)]

/-- The keys of an item behind its kind. -/
@[simp] def itemKeys : (kind : String) → Keys
  | "Namespace" => [("crate_name", .needed), ("name", .needed)]
  | "UdlFile" => [("module_path", .needed), ("namespace", .needed), ("file_stub", .needed)]
  | "Func" =>
    [("module_path", .needed), ("name", .needed)] ++ signatureKeys ++
      [("is_async", .optional (.bool false)), docstring]
  | "Constructor" =>
    [("module_path", .needed), ("self_name", .needed), ("name", .needed)] ++ signatureKeys ++
      [docstring]
  | "Method" =>
    [("module_path", .needed), ("self_name", .needed), ("name", .needed)] ++ signatureKeys ++
      [("is_async", .optional (.bool false)), docstring]
  | "TraitMethod" =>
    [("module_path", .needed), ("trait_name", .needed), ("index", .needed), ("name", .needed)] ++
      signatureKeys ++ [("is_async", .optional (.bool false)), docstring]
  | "Record" =>
    [("module_path", .needed), ("name", .needed), ("fields", .parts field), docstring]
  | "Enum" =>
    [("module_path", .needed), ("name", .needed), ("variants", .parts variant),
      ("is_error", .optional (.bool false)), docstring]
  | "Object" =>
    [("module_path", .needed), ("name", .needed), ("is_trait", .optional (.bool false)), docstring]
  | "CallbackInterface" => [("module_path", .needed), ("name", .needed), docstring]
  | "CustomType" =>
    [("module_path", .needed), ("name", .needed), ("builtin", .part ty), docstring]
  | _ => []

/-- The keys of an object. Only types and items are of different kinds. -/
def keys : Form → (kind : String) → Keys
  | param, _ => [("name", .needed), ("ty", .part ty)]
  | field, _ =>
    [("name", .needed), ("ty", .part ty), ("default", .optional .null), docstring]
  | variant, _ => [("name", .needed), ("fields", .parts field), docstring]
  | ty, kind => ("kind", .needed) :: typeKeys kind
  | item, kind => ("kind", .needed) :: itemKeys kind

end Form

namespace Json

def kindOf (members : Members) : String :=
  match memberOrNull members "kind" with
  | .str kind => kind
  | _ => ""

/-- What the normal form has for a missing key. A key that must be there is not missing in a value
that is read. -/
def missing : Content → Json
  | .needed | .part _ => .null
  | .optional default => default
  | .parts _ => .arr []

mutual

/-- An object with the keys that the format knows. -/
def normal : Json → Form → Json
  | .obj members, form =>
    .obj ((form.keys (kindOf members)).map fun entry =>
      (entry.1, normalMember members entry.1 entry.2))
  | j, _ => j

/-- What the normal form has under a key. -/
def normalMember : List (String × Json) → (key : String) → Content → Json
  | [], _, content => missing content
  | (k, value) :: rest, key, content =>
    if k = key then
      match content with
      | .needed | .optional _ => value
      | .part form => normal value form
      | .parts form => normalParts value form
    else normalMember rest key content

def normalParts : Json → Form → Json
  | .null, _ => .arr []
  | .arr elements, form => .arr (normalElements elements form)
  | j, _ => j

def normalElements : List Json → Form → List Json
  | [], _ => []
  | element :: rest, form => normal element form :: normalElements rest form

end

/-- What the normal form makes of a value under a key. -/
def normalContent (j : Json) : Content → Json
  | .needed | .optional _ => j
  | .part form => normal j form
  | .parts form => normalParts j form

theorem normalMember_eq (members : Members) (key : String) (content : Content) :
    normalMember members key content =
      ((member? members key).map (normalContent · content)).getD (missing content) := by
  induction members with
  | nil => simp [normalMember]
  | cons m rest ih =>
    obtain ⟨k, j⟩ := m
    by_cases h : k = key
    · cases content <;> simp [normalMember, h, normalContent]
    · simp [normalMember, h, ih]

theorem normalElements_eq (elements : List Json) (form : Form) :
    normalElements elements form = elements.map (normal · form) := by
  induction elements with
  | nil => rw [normalElements]; rfl
  | cons element rest ih => simp [normalElements, ih]

theorem kindOf_eq {members : Members} {kind : String}
    (h : memberOrNull members "kind" = .str kind) : kindOf members = kind := by
  rw [kindOf, h]

end Json

section

variable {members : Members} {owner key : String}

theorem normalMember_of_member? {j : Json} (h : member? members key = some j) (content : Content) :
    normalMember members key content = normalContent j content := by
  rw [normalMember_eq, h]
  rfl

theorem normalMember_of_requireText {s : String} (h : requireText members owner key = .ok s) :
    normalMember members key .needed = .str s := by
  unfold requireText at h
  split at h
  · rename_i hs
    obtain rfl := Except.ok.inj h
    exact normalMember_of_member? hs .needed
  · cases h

theorem normalMember_of_flagOr {default b : Bool} (h : flagOr members owner key default = .ok b) :
    normalMember members key (.optional (.bool default)) = .bool b := by
  unfold flagOr at h
  split at h
  · rename_i hb
    obtain rfl := Except.ok.inj h
    rw [normalMember_eq, hb]
    rfl
  · rename_i hb
    obtain rfl := Except.ok.inj h
    exact normalMember_of_member? hb _
  · cases h

/-- The members of an object of a kind, its kind in front. -/
theorem normal_obj {form : Form} {kind : String} {keys : Keys}
    (hkind : memberOrNull members "kind" = .str kind)
    (hkeys : form.keys kind = ("kind", .needed) :: keys) :
    normal (.obj members) form = .obj (("kind", .str kind) ::
      keys.map fun entry => (entry.1, normalMember members entry.1 entry.2)) := by
  have hmember : normalMember members "kind" .needed = .str kind := by
    unfold memberOrNull at hkind
    cases hfound : member? members "kind" with
    | none => simp [hfound] at hkind
    | some j =>
      rw [normalMember_of_member? hfound .needed]
      simpa [hfound, normalContent] using hkind
  rw [normal, kindOf_eq hkind, hkeys, List.map_cons, hmember]

end

theorem ExternalKind.eq_of_ofSpelling? {s : String} {k : ExternalKind}
    (h : ofSpelling? s = some k) : k.spelling = s := by
  simpa using List.find?_some h

namespace Ty

theorem kind_of_isKind {members : Members} {kind : String} (h : isKind members kind = true) :
    memberOrNull members "kind" = .str kind := by
  unfold isKind at h
  split at h
  · rename_i s hs
    rw [memberOrNull, hs, of_decide_eq_true h]
    rfl
  · cases h

/-- A primitive type that is read is written as its normal form. -/
theorem normal_of_readPrimitive {members : Members} {t : Ty} (hkind : isKind members "Primitive")
    (h : readPrimitive members = .ok t) : (Json.obj members).normal .ty = t.toJson := by
  obtain ⟨name, hname, h⟩ := bind_eq_ok.1 h
  split at h
  · rename_i kind hspelling
    obtain rfl := Except.ok.inj h
    rw [normal_obj (kind_of_isKind hkind) rfl]
    simp [normalMember_of_requireText hname, toJson,
      Primitive.eq_of_ofSpelling? hspelling]
  · cases h

/-- A reference that is read is written as its normal form, with the defaults filled in. -/
theorem normal_of_readExternal {members : Members} {t : Ty} (hkind : isKind members "External")
    (h : readExternal members = .ok t) : (Json.obj members).normal .ty = t.toJson := by
  obtain ⟨spelling, hspelling, h⟩ := bind_eq_ok.1 h
  split at h
  · cases h
  · rename_i kind hknown
    obtain ⟨namespaceName, hnamespace, h⟩ := bind_eq_ok.1 h
    obtain ⟨modulePath, hpath, h⟩ := bind_eq_ok.1 h
    obtain ⟨name, hname, h⟩ := bind_eq_ok.1 h
    obtain ⟨tagged, htagged, h⟩ := bind_eq_ok.1 h
    obtain ⟨holdsObjects, hholds, h⟩ := bind_eq_ok.1 h
    obtain rfl := Except.ok.inj h
    rw [normal_obj (kind_of_isKind hkind) rfl]
    simp [toJson, normalMember_of_requireText hspelling,
      normalMember_of_requireText hnamespace, normalMember_of_requireText hpath,
      normalMember_of_requireText hname, normalMember_of_flagOr htagged,
      normalMember_of_flagOr hholds, ExternalKind.eq_of_ofSpelling? hknown]

/-- A type that names a declaration is written as its normal form. -/
theorem normal_of_readPlain {members : Members} {t : Ty} (h : readPlain members = .ok t) :
    (Json.obj members).normal .ty = t.toJson := by
  unfold readPlain at h
  split at h
  · rename_i kind hkind
    split at h
    · rename_i make hmake
      obtain ⟨modulePath, hpath, h⟩ := bind_eq_ok.1 h
      obtain ⟨name, hname, h⟩ := bind_eq_ok.1 h
      obtain rfl := Except.ok.inj h
      unfold plain? at hmake
      split_ifs at hmake with hobject hrecord henum hcallback
      all_goals
        cases hmake
        subst kind
        rw [normal_obj hkind rfl]
        simp [toJson, normalMember_of_requireText hpath,
          normalMember_of_requireText hname]
    · cases h
  · cases h

mutual

/-- A type that is read is written as its normal form. -/
theorem normal_of_ofJson : (j : Json) → {t : Ty} → ofJson j = .ok t → j.normal .ty = t.toJson
  | .null, _, h | .bool _, _, h | .int _, _, h | .float _, _, h | .str _, _, h | .arr _, _, h => by
    simp [ofJson] at h
  | .obj members, t, h => by
    rw [ofJson] at h
    split_ifs at h with hprimitive hoptional hsequence hmap hcustom hexternal
    · exact normal_of_readPrimitive hprimitive h
    · obtain ⟨inner, hinner, h⟩ := bind_eq_ok.1 h
      obtain rfl := Except.ok.inj h
      rw [normal_obj (kind_of_isKind hoptional) rfl]
      simp [toJson, normalMember_of_ofMember members hinner]
    · obtain ⟨inner, hinner, h⟩ := bind_eq_ok.1 h
      obtain rfl := Except.ok.inj h
      rw [normal_obj (kind_of_isKind hsequence) rfl]
      simp [toJson, normalMember_of_ofMember members hinner]
    · obtain ⟨key, hkey, h⟩ := bind_eq_ok.1 h
      obtain ⟨value, hvalue, h⟩ := bind_eq_ok.1 h
      obtain rfl := Except.ok.inj h
      rw [normal_obj (kind_of_isKind hmap) rfl]
      simp [toJson, normalMember_of_ofMember members hkey,
        normalMember_of_ofMember members hvalue]
    · obtain ⟨modulePath, hpath, h⟩ := bind_eq_ok.1 h
      obtain ⟨name, hname, h⟩ := bind_eq_ok.1 h
      obtain ⟨builtin, hbuiltin, h⟩ := bind_eq_ok.1 h
      obtain rfl := Except.ok.inj h
      rw [normal_obj (kind_of_isKind hcustom) rfl]
      simp [toJson, normalMember_of_requireText hpath,
        normalMember_of_requireText hname, normalMember_of_ofMember members hbuiltin]
    · exact normal_of_readExternal hexternal h
    · exact normal_of_readPlain h

/-- The type under a key. -/
theorem normalMember_of_ofMember : (members : Members) → {key : String} → {t : Ty} →
    ofMember key members = .ok t → normalMember members key (.part .ty) = t.toJson
  | [], _, _, h => by simp [ofMember] at h
  | (k, value) :: rest, key, t, h => by
    rw [ofMember] at h
    rw [normalMember]
    split_ifs at h ⊢
    · exact normal_of_ofJson value h
    · exact normalMember_of_ofMember rest h

end

end Ty

namespace Item

section

variable {m : Members} {owner key : String}

theorem normalMember_of_readText? {s : String} (h : readText? owner m key = .ok (some s)) :
    normalMember m key .needed = .str s := by
  unfold readText? at h
  split at h
  · cases h
  · rename_i hs
    cases h
    exact normalMember_of_member? hs .needed
  · cases h

theorem normalMember_of_readInt? {n : Int} (h : readInt? owner m key = .ok (some n)) :
    normalMember m key .needed = .int n := by
  unfold readInt? at h
  split at h
  · cases h
  · rename_i hn
    cases h
    exact normalMember_of_member? hn .needed
  · cases h

theorem normalMember_of_readOptionalText {o : Option String}
    (h : readOptionalText owner m key = .ok o) :
    normalMember m key (.optional .null) = ofText? o := by
  have hfill : normalMember m key (.optional .null) = memberOrNull m key := by
    rw [normalMember_eq, memberOrNull]
    cases member? m key <;> rfl
  unfold readOptionalText at h
  rw [hfill]
  split at h
  · rename_i hj
    cases h
    exact hj
  · rename_i hj
    cases h
    exact hj
  · cases h

theorem normalMember_of_readTy? {ty : Ty} (h : readTy? m key = .ok (some ty)) :
    normalMember m key (.part .ty) = ty.toJson := by
  unfold readTy? at h
  split at h
  · cases h
  · rename_i j hj
    obtain ⟨t, ht, hty⟩ := map_eq_ok.1 h
    cases hty
    rw [normalMember_of_member? hj]
    exact Ty.normal_of_ofJson j ht

theorem normalMember_of_readOptionalTy {o : Option Ty} (h : readOptionalTy m key = .ok o) :
    normalMember m key (.part .ty) = tyJson? o := by
  have hfill : normalMember m key (.part .ty) = (memberOrNull m key).normal .ty := by
    rw [normalMember_eq, memberOrNull]
    cases member? m key <;> simp [normalContent, missing, normal]
  unfold readOptionalTy at h
  rw [hfill]
  split at h
  · rename_i hj
    cases h
    rw [hj]
    simp [normal, tyJson?, ofOption]
  · obtain ⟨t, ht, rfl⟩ := map_eq_ok.1 h
    exact Ty.normal_of_ofJson _ ht

/-- Entries that are read one by one are written as their normal forms. -/
theorem normalMember_of_readList {α : Type} {form : Form} {read : Json → Except Malformed α}
    {write : α → Json} (hentry : ∀ {j a}, read j = .ok a → j.normal form = write a) {xs : List α}
    (h : readList owner read m key = .ok xs) :
    normalMember m key (.parts form) = .arr (xs.map write) := by
  have hfill : normalMember m key (.parts form) = normalParts (memberOrNull m key) form := by
    rw [normalMember_eq, memberOrNull]
    cases member? m key <;> simp [normalContent, missing, normalParts]
  unfold readList at h
  rw [hfill]
  split at h
  · rename_i hj
    cases h
    rw [hj]
    simp [normalParts]
  · rename_i elements hj
    rw [hj, normalParts, normalElements_eq]
    have hmap := map_eq_of_related (mapM_eq_ok.1 h) fun j a => hentry (j := j) (a := a)
    rw [hmap]
  · cases h

end

/-- A parameter that is read is written as its normal form. -/
theorem normal_of_readParam {j : Json} {p : Param} (h : readParam j = .ok p) :
    j.normal .param = p.toJson := by
  unfold readParam at h
  split at h
  · rename_i members
    obtain ⟨name, hname, h⟩ := bind_eq_ok.1 h
    obtain ⟨ty, hty, h⟩ := bind_eq_ok.1 h
    obtain rfl := Except.ok.inj h
    simp [normal, Form.keys, Param.toJson, normalMember_of_requireText hname,
      Ty.normalMember_of_ofMember members hty]
  · cases h

/-- A field that is read is written as its normal form. -/
theorem normal_of_readField {j : Json} {f : Field} (h : readField j = .ok f) :
    j.normal .field = f.toJson := by
  unfold readField at h
  split at h
  · rename_i members
    obtain ⟨name, hname, h⟩ := bind_eq_ok.1 h
    obtain ⟨ty, hty, h⟩ := bind_eq_ok.1 h
    obtain ⟨default, hdefault, h⟩ := bind_eq_ok.1 h
    obtain ⟨docs, hdocs, h⟩ := bind_eq_ok.1 h
    obtain rfl := Except.ok.inj h
    simp [normal, Form.keys, Form.docstring, Field.toJson, normalMember_of_requireText hname,
      Ty.normalMember_of_ofMember members hty, normalMember_of_readOptionalText hdefault,
      normalMember_of_readOptionalText hdocs]
  · cases h

theorem normal_of_readVariant {j : Json} {v : Variant} (h : readVariant j = .ok v) :
    j.normal .variant = v.toJson := by
  unfold readVariant at h
  split at h
  · rename_i members
    obtain ⟨name, hname, h⟩ := bind_eq_ok.1 h
    obtain ⟨fields, hfields, h⟩ := bind_eq_ok.1 h
    obtain ⟨docs, hdocs, h⟩ := bind_eq_ok.1 h
    obtain rfl := Except.ok.inj h
    simp [normal, Form.keys, Form.docstring, Variant.toJson, normalMember_of_requireText hname,
      normalMember_of_readList normal_of_readField hfields,
      normalMember_of_readOptionalText hdocs]
  · cases h

section

variable {m : Members} {item : Item}

theorem normal_of_readNamespace (hkind : memberOrNull m "kind" = .str "Namespace")
    (h : readNamespace m = .ok item) : (Json.obj m).normal .item = item.toJson := by
  simp only [readNamespace, bind_eq_ok] at h
  obtain ⟨library, hlibrary, name, hname, h⟩ := h
  split at h
  · cases h
    rw [normal_obj hkind rfl]
    simp [toJson, kind, fieldsJson, normalMember_of_readText? hlibrary,
      normalMember_of_readText? hname]
  · cases h

theorem normal_of_readLegacy (hkind : memberOrNull m "kind" = .str "UdlFile")
    (h : readLegacy m = .ok item) : (Json.obj m).normal .item = item.toJson := by
  simp only [readLegacy, bind_eq_ok] at h
  obtain ⟨path, hpath, space, hspace, stub, hstub, h⟩ := h
  split at h
  · cases h
    rw [normal_obj hkind rfl]
    simp [toJson, kind, fieldsJson, normalMember_of_readText? hpath,
      normalMember_of_readText? hspace, normalMember_of_readText? hstub]
  · cases h

theorem normal_of_readFunction (hkind : memberOrNull m "kind" = .str "Func")
    (h : readFunction m = .ok item) : (Json.obj m).normal .item = item.toJson := by
  simp only [readFunction, bind_eq_ok] at h
  obtain ⟨path, hpath, name, hname, inputs, hinputs, returns, hreturns, throws, hthrows,
    isAsync, hisAsync, docs, hdocs, h⟩ := h
  split at h
  · cases h
    rw [normal_obj hkind rfl]
    simp [Form.signatureKeys, Form.docstring, toJson, kind, fieldsJson, paramsJson,
      normalMember_of_readText? hpath, normalMember_of_readText? hname,
      normalMember_of_readList normal_of_readParam hinputs, normalMember_of_readOptionalTy hreturns,
      normalMember_of_readOptionalTy hthrows, normalMember_of_flagOr hisAsync,
      normalMember_of_readOptionalText hdocs]
  · cases h

theorem normal_of_readConstructor (hkind : memberOrNull m "kind" = .str "Constructor")
    (h : readConstructor m = .ok item) : (Json.obj m).normal .item = item.toJson := by
  simp only [readConstructor, bind_eq_ok] at h
  obtain ⟨path, hpath, owner, howner, name, hname, inputs, hinputs, returns, hreturns, throws,
    hthrows, docs, hdocs, h⟩ := h
  split at h
  · cases h
    rw [normal_obj hkind rfl]
    simp [Form.signatureKeys, Form.docstring, toJson, kind, fieldsJson, paramsJson,
      normalMember_of_readText? hpath, normalMember_of_readText? howner,
      normalMember_of_readText? hname, normalMember_of_readList normal_of_readParam hinputs,
      normalMember_of_readOptionalTy hreturns, normalMember_of_readOptionalTy hthrows,
      normalMember_of_readOptionalText hdocs]
  · cases h

theorem normal_of_readMethod (hkind : memberOrNull m "kind" = .str "Method")
    (h : readMethod m = .ok item) : (Json.obj m).normal .item = item.toJson := by
  simp only [readMethod, bind_eq_ok] at h
  obtain ⟨path, hpath, owner, howner, name, hname, inputs, hinputs, returns, hreturns, throws,
    hthrows, isAsync, hisAsync, docs, hdocs, h⟩ := h
  split at h
  · cases h
    rw [normal_obj hkind rfl]
    simp [Form.signatureKeys, Form.docstring, toJson, kind, fieldsJson, paramsJson,
      normalMember_of_readText? hpath, normalMember_of_readText? howner,
      normalMember_of_readText? hname, normalMember_of_readList normal_of_readParam hinputs,
      normalMember_of_readOptionalTy hreturns, normalMember_of_readOptionalTy hthrows,
      normalMember_of_flagOr hisAsync, normalMember_of_readOptionalText hdocs]
  · cases h

theorem normal_of_readTraitMethod (hkind : memberOrNull m "kind" = .str "TraitMethod")
    (h : readTraitMethod m = .ok item) : (Json.obj m).normal .item = item.toJson := by
  simp only [readTraitMethod, bind_eq_ok] at h
  obtain ⟨path, hpath, owner, howner, index, hindex, name, hname, inputs, hinputs, returns,
    hreturns, throws, hthrows, isAsync, hisAsync, docs, hdocs, h⟩ := h
  split at h
  · cases h
    rw [normal_obj hkind rfl]
    simp [Form.signatureKeys, Form.docstring, toJson, kind, fieldsJson, paramsJson,
      normalMember_of_readText? hpath, normalMember_of_readText? howner,
      normalMember_of_readInt? hindex, normalMember_of_readText? hname,
      normalMember_of_readList normal_of_readParam hinputs, normalMember_of_readOptionalTy hreturns,
      normalMember_of_readOptionalTy hthrows, normalMember_of_flagOr hisAsync,
      normalMember_of_readOptionalText hdocs]
  · cases h

theorem normal_of_readRecord (hkind : memberOrNull m "kind" = .str "Record")
    (h : readRecord m = .ok item) : (Json.obj m).normal .item = item.toJson := by
  simp only [readRecord, bind_eq_ok] at h
  obtain ⟨path, hpath, name, hname, fields, hfields, docs, hdocs, h⟩ := h
  split at h
  · cases h
    rw [normal_obj hkind rfl]
    simp [Form.docstring, toJson, kind, fieldsJson, normalMember_of_readText? hpath,
      normalMember_of_readText? hname, normalMember_of_readList normal_of_readField hfields,
      normalMember_of_readOptionalText hdocs]
  · cases h

theorem normal_of_readEnumeration (hkind : memberOrNull m "kind" = .str "Enum")
    (h : readEnumeration m = .ok item) : (Json.obj m).normal .item = item.toJson := by
  simp only [readEnumeration, bind_eq_ok] at h
  obtain ⟨path, hpath, name, hname, variants, hvariants, isError, hisError, docs, hdocs, h⟩ := h
  split at h
  · cases h
    rw [normal_obj hkind rfl]
    simp [Form.docstring, toJson, kind, fieldsJson, normalMember_of_readText? hpath,
      normalMember_of_readText? hname, normalMember_of_readList normal_of_readVariant hvariants,
      normalMember_of_flagOr hisError, normalMember_of_readOptionalText hdocs]
  · cases h

theorem normal_of_readObject (hkind : memberOrNull m "kind" = .str "Object")
    (h : readObject m = .ok item) : (Json.obj m).normal .item = item.toJson := by
  simp only [readObject, bind_eq_ok] at h
  obtain ⟨path, hpath, name, hname, isTrait, hisTrait, docs, hdocs, h⟩ := h
  split at h
  · cases h
    rw [normal_obj hkind rfl]
    simp [Form.docstring, toJson, kind, fieldsJson, normalMember_of_readText? hpath,
      normalMember_of_readText? hname, normalMember_of_flagOr hisTrait,
      normalMember_of_readOptionalText hdocs]
  · cases h

theorem normal_of_readCallback (hkind : memberOrNull m "kind" = .str "CallbackInterface")
    (h : readCallback m = .ok item) : (Json.obj m).normal .item = item.toJson := by
  simp only [readCallback, bind_eq_ok] at h
  obtain ⟨path, hpath, name, hname, docs, hdocs, h⟩ := h
  split at h
  · cases h
    rw [normal_obj hkind rfl]
    simp [Form.docstring, toJson, kind, fieldsJson, normalMember_of_readText? hpath,
      normalMember_of_readText? hname, normalMember_of_readOptionalText hdocs]
  · cases h

theorem normal_of_readCustom (hkind : memberOrNull m "kind" = .str "CustomType")
    (h : readCustom m = .ok item) : (Json.obj m).normal .item = item.toJson := by
  simp only [readCustom, bind_eq_ok] at h
  obtain ⟨path, hpath, name, hname, builtin, hbuiltin, docs, hdocs, h⟩ := h
  split at h
  · cases h
    rw [normal_obj hkind rfl]
    simp [Form.docstring, toJson, kind, fieldsJson, normalMember_of_readText? hpath,
      normalMember_of_readText? hname, normalMember_of_readTy? hbuiltin,
      normalMember_of_readOptionalText hdocs]
  · cases h

end

/-- An item that is read is written as its normal form. -/
theorem normal_of_ofJson {j : Json} {item : Item} (h : ofJson j = .ok item) :
    j.normal .item = item.toJson := by
  unfold ofJson at h
  split at h
  · rename_i m
    split at h
    · rename_i kind hkind
      split at h
      · rename_i read hread
        unfold reader? at hread
        obtain ⟨rfl, ⟨⟩⟩ | ⟨-, hread⟩ := ite_eq_iff.1 hread
        · exact normal_of_readNamespace hkind h
        obtain ⟨rfl, ⟨⟩⟩ | ⟨-, hread⟩ := ite_eq_iff.1 hread
        · exact normal_of_readLegacy hkind h
        obtain ⟨rfl, ⟨⟩⟩ | ⟨-, hread⟩ := ite_eq_iff.1 hread
        · exact normal_of_readFunction hkind h
        obtain ⟨rfl, ⟨⟩⟩ | ⟨-, hread⟩ := ite_eq_iff.1 hread
        · exact normal_of_readConstructor hkind h
        obtain ⟨rfl, ⟨⟩⟩ | ⟨-, hread⟩ := ite_eq_iff.1 hread
        · exact normal_of_readMethod hkind h
        obtain ⟨rfl, ⟨⟩⟩ | ⟨-, hread⟩ := ite_eq_iff.1 hread
        · exact normal_of_readTraitMethod hkind h
        obtain ⟨rfl, ⟨⟩⟩ | ⟨-, hread⟩ := ite_eq_iff.1 hread
        · exact normal_of_readRecord hkind h
        obtain ⟨rfl, ⟨⟩⟩ | ⟨-, hread⟩ := ite_eq_iff.1 hread
        · exact normal_of_readEnumeration hkind h
        obtain ⟨rfl, ⟨⟩⟩ | ⟨-, hread⟩ := ite_eq_iff.1 hread
        · exact normal_of_readObject hkind h
        obtain ⟨rfl, ⟨⟩⟩ | ⟨-, hread⟩ := ite_eq_iff.1 hread
        · exact normal_of_readCallback hkind h
        obtain ⟨rfl, ⟨⟩⟩ | ⟨-, hread⟩ := ite_eq_iff.1 hread
        · exact normal_of_readCustom hkind h
        cases hread
      · cases h
    · cases h
  · cases h

/-- Items are told apart by how they are written. -/
theorem toJson_injective : Function.Injective toJson := by
  intro a b h
  have hread : (.ok a : Except Malformed Item) = .ok b := by
    rw [← ofJson_toJson a, ← ofJson_toJson b, h]
  exact Except.ok.inj hread

/-- An item is written as the normal form of what it was read from, so values give one item exactly
when their normal forms are one. -/
theorem toJson_eq_normal {j : Json} {item : Item} (h : ofJson j = .ok item) :
    item.toJson = j.normal .item ∧ ∀ (j' : Json) (item' : Item), ofJson j' = .ok item' →
      (item = item' ↔ j.normal .item = j'.normal .item) := by
  refine ⟨(normal_of_ofJson h).symm, fun j' item' h' => ?_⟩
  rw [normal_of_ofJson h, normal_of_ofJson h']
  exact toJson_injective.eq_iff.symm

/-- An enumeration with keys that the format does not know, a null list and without flags. -/
def sparseEnum : Json := .obj [
  ("name", .str "Shape"), ("since", .int 2), ("kind", .str "Enum"), ("module_path", .str "a"),
  ("variants", .arr [
    .obj [("name", .str "Dot"), ("fields", .null)],
    .obj [("color", .null), ("name", .str "Tagged"), ("fields", .arr [
      .obj [("name", .str "r"), ("ty", .obj [("kind", .str "Optional"), ("inner", .obj [
        ("name", .str "R"), ("kind", .str "External"), ("size", .float .nan),
        ("namespace", .str ""),
        ("module_path", .str "b"), ("external_kind", .str "DataClass")])])]])]])]

def shapeEnum : Item := .enumeration {
  modulePath := "a"
  name := "Shape"
  variants := [{ name := "Dot" },
    { name := "Tagged"
      fields :=
        [⟨"r", .optional (.external ⟨"", "b", "R", .dataClass, false, true⟩), none, none⟩] }] }

theorem toJson_eq_normal_sparse : ofJson sparseEnum = .ok shapeEnum ∧
    shapeEnum.toJson = sparseEnum.normal .item ∧ ofJson shapeEnum.toJson = .ok shapeEnum ∧
      (shapeEnum = shapeEnum ↔ sparseEnum.normal .item = shapeEnum.toJson.normal .item) := by
  have hsparse : ofJson sparseEnum = .ok shapeEnum := by rfl
  have hfull : ofJson shapeEnum.toJson = .ok shapeEnum := by rfl
  obtain ⟨hnormal, hequal⟩ := toJson_eq_normal hsparse
  exact ⟨hsparse, hnormal, hfull, hequal _ _ hfull⟩

end Item
end Bindery
